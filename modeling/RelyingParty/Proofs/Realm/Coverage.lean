import RelyingParty.Proofs.Realm.Wildcard
import RelyingParty.Proofs.Text.Parts
import RelyingParty.Proofs.Uri.FixedPoint

/-! What a realm covers: labels of hosts, segments of paths and parts of queries, and whatever is
covered by a realm that it covers itself. -/

namespace RelyingParty

/-- A URL without a number sign has no fragment. -/
theorem Uri.fragment_eq_none {url : Text} {uri : Uri} (read : parse url = .ok uri)
    (unmarked : '#' ∉ url) : uri.fragment = none := by
  -- Neither its cut nor the canonical form of what is cut off brings the sign in.
  obtain ⟨name, userinfo, host, behind, rfl, cut⟩ := exists_cut_of_parse read
  obtain ⟨_, known, info, part, back, found, nonempty⟩ := cut.parse_eq_ok_iff.mp read
  have absent : '#' ∉ behind := fun inside => unmarked (List.mem_append_right _ inside)
  have kept := not_mem_of_canonicalEscapes? rfl back absent
  have first : Text.cutTail '#' _ = (_, none) :=
    Text.cutTail_eq_iff.mpr ⟨(List.append_nil _).symm, kept⟩
  simp only [assembled, first]

/-- A part that follows the path is left out, or stands behind its mark. -/
theorem Locator.trailing_cases (mark : Char) (part : Option Text) :
    trailing mark part = [] ∨
      ∃ text, text ≠ [] ∧ part = some text ∧ trailing mark part = mark :: text := by
  -- An empty part is left out like a missing one.
  match part with
  | none => exact .inl rfl
  | some [] => exact .inl rfl
  | some (c :: rest) => exact .inr ⟨c :: rest, List.cons_ne_nil c rest, rfl, rfl⟩

namespace Realm

/-- A realm path covers a path exactly when this one begins with it, and goes on at a boundary if it
goes on: the last character of the realm path, or the next one. -/
theorem coversPath_iff {realmPath path : Text} :
    coversPath realmPath path = true ↔ ∃ rest, path = realmPath ++ rest ∧
      (rest = [] ∨ ∃ c ∈ boundaries realmPath,
        realmPath.getLast? = some c ∨ rest.head? = some c) := by
  simp only [coversPath, Bool.or_eq_true, decide_eq_true_eq]
  constructor
  · rintro (rfl | goes)
    · exact ⟨[], by simp, .inl rfl⟩
    · -- Only what begins with the realm path has a rest behind it.
      cases dropped : Text.dropStart? realmPath path with
      | none => simp [dropped] at goes
      | some rest =>
        refine ⟨rest, Text.dropStart?_eq_some_iff.mp dropped, .inr ?_⟩
        simp only [dropped, Bool.or_eq_true, Option.any_eq_true, List.contains_iff_mem] at goes
        rcases goes with ⟨c, last, boundary⟩ | ⟨c, next, boundary⟩
        · exact ⟨c, boundary, .inl last⟩
        · exact ⟨c, boundary, .inr next⟩
  -- In turn a rest behind the realm path is what is left when it is dropped.
  · rintro ⟨rest, rfl, rfl | ⟨c, boundary, goes⟩⟩
    · exact .inl (List.append_nil _)
    · have dropped : Text.dropStart? realmPath (realmPath ++ rest) = some rest :=
        Text.dropStart?_eq_some_iff.mpr rfl
      simp only [dropped, Bool.or_eq_true, Option.any_eq_true, List.contains_iff_mem]
      rcases goes with last | next
      · exact .inr (.inl ⟨c, last, boundary⟩)
      · exact .inr (.inr ⟨c, next, boundary⟩)

/-- A realm path covers itself. -/
theorem coversPath_refl (path : Text) : coversPath path path = true :=
  coversPath_iff.mpr ⟨[], (List.append_nil path).symm, .inl rfl⟩

/-- What begins without a question mark begins within the path, in front of the query. -/
theorem exists_of_append_trailing {start path rest : Text} {query : Option Text}
    (plain : '?' ∉ start) (whole : path ++ Locator.trailing '?' query = start ++ rest) :
    ∃ more, path = start ++ more ∧ rest = more ++ Locator.trailing '?' query := by
  rcases List.append_eq_append_iff.mp whole with ⟨back, same, tail⟩ | ⟨more, same, tail⟩
  · -- The start would have the mark of the query if it went on behind the path.
    cases back with
    | nil => exact ⟨[], by simp [same], by simpa using tail.symm⟩
    | cons c back =>
      rcases Locator.trailing_cases '?' query with nothing | ⟨text, _, _, marked⟩
      · simp [nothing] at tail
      · rw [marked] at tail
        obtain ⟨rfl, _⟩ := List.cons.inj tail
        exact absurd (same ▸ List.mem_append_right _ (.head _)) plain
  · exact ⟨more, same, tail⟩

/-- Without a query a realm path covers the paths that its segments lead, whatever their query. -/
theorem coversPath_of_no_query {realmPath path : Text} (nonempty : realmPath ≠ [])
    (plain : '?' ∉ realmPath) (unmarked : '?' ∉ path) (query : Option Text) :
    coversPath realmPath (path ++ Locator.trailing '?' query) = true ↔
      Text.Leads '/' realmPath path := by
  have bounds : ∀ c, c ∈ boundaries realmPath ↔ c = '?' ∨ c = '/' := by simp [boundaries, plain]
  rw [coversPath_iff, Text.leads_iff nonempty]
  constructor
  · rintro ⟨rest, whole, goes⟩
    obtain ⟨more, rfl, rfl⟩ := exists_of_append_trailing plain whole
    refine ⟨more, rfl, ?_⟩
    rcases goes with nothing | ⟨c, boundary, last | next⟩
    · exact .inl (List.append_eq_nil_iff.mp nothing).1
    · -- The realm path has no question mark to end with, so it ends with a slash.
      rcases (bounds c).mp boundary with rfl | rfl
      · exact absurd (List.mem_of_getLast? last) plain
      · exact .inr (.inl last)
    · -- Only a question mark of the query may stand behind the end of the path.
      cases more with
      | nil => exact .inl rfl
      | cons d more =>
        obtain rfl := Option.some.inj next
        rcases (bounds d).mp boundary with rfl | rfl
        · exact absurd (List.mem_append_right _ (.head _)) unmarked
        · exact .inr (.inr rfl)
  · rintro ⟨rest, rfl, goes⟩
    refine ⟨rest ++ Locator.trailing '?' query, by simp, ?_⟩
    rcases goes with rfl | last | next
    · -- The same path is covered with any query, whose mark is a boundary.
      rcases Locator.trailing_cases '?' query with nothing | ⟨text, _, _, marked⟩
      · exact .inl (by simpa using nothing)
      · exact .inr ⟨'?', (bounds _).mpr (.inl rfl), .inr (by simp [marked])⟩
    · exact .inr ⟨'/', (bounds _).mpr (.inr rfl), .inl last⟩
    · obtain ⟨more, rfl⟩ := List.head?_eq_some_iff.mp next
      exact .inr ⟨'/', (bounds _).mpr (.inr rfl), .inr rfl⟩

/-- With a query a realm path covers its own path with the queries that the parts of its query
lead. -/
theorem coversPath_of_query {realmPath asked path : Text} (plain : '?' ∉ realmPath)
    (nonempty : asked ≠ []) (unmarked : '?' ∉ path) (query : Option Text) :
    coversPath (realmPath ++ '?' :: asked) (path ++ Locator.trailing '?' query) = true ↔
      path = realmPath ∧ ∃ own, query = some own ∧ Text.Leads '&' asked own := by
  have bounds : boundaries (realmPath ++ '?' :: asked) = ['&'] := if_pos (by simp)
  have last : (realmPath ++ '?' :: asked).getLast? = asked.getLast? := by
    obtain ⟨c, more, rfl⟩ := List.exists_cons_of_ne_nil nonempty
    rw [List.getLast?_append_of_ne_nil _ (List.cons_ne_nil _ _), List.getLast?_cons_cons]
  simp only [coversPath_iff, bounds, last, List.mem_singleton, exists_eq_left,
    Text.leads_iff nonempty]
  constructor
  · rintro ⟨rest, whole, goes⟩
    -- Both texts are cut at their first question mark.
    rcases Locator.trailing_cases '?' query with nothing | ⟨own, _, rfl, marked⟩
    · -- A path alone cannot hold the mark of the realm's query.
      rw [nothing, List.append_nil] at whole
      exact absurd (whole ▸ by simp) unmarked
    · rw [marked, List.append_assoc, List.cons_append] at whole
      have first := Text.splitFirst_eq_some_iff.mpr ⟨whole, plain⟩
      rw [Text.splitFirst_eq_some_iff.mpr ⟨rfl, unmarked⟩] at first
      obtain ⟨rfl, rfl⟩ := Prod.mk.inj (Option.some.inj first)
      exact ⟨rfl, _, rfl, rest, rfl, goes⟩
  · rintro ⟨rfl, own, rfl, rest, rfl, goes⟩
    obtain ⟨c, more, rfl⟩ := List.exists_cons_of_ne_nil nonempty
    exact ⟨rest, by simp [Locator.trailing], goes⟩

/-- Whether the labels of a host are those of a realm, or end with them when it is a wildcard; the
realm of every host has none. -/
def CoversLabels (realm : Realm) (host : Text) : Prop :=
  Text.splitAll '.' host = Text.splitAll '.' realm.host ∨
    realm.wildcard = true ∧
      (realm.host = [] ∨ Text.splitAll '.' realm.host <:+ Text.splitAll '.' host)

/-- A realm covers the hosts whose labels it covers. -/
theorem coversHost_iff {realm : Realm} {host : Text} :
    realm.coversHost host = true ↔ realm.CoversLabels host := by
  have ends : Text.endsWith ('.' :: realm.host) host = true ↔
      ∃ front, host = front ++ '.' :: realm.host := by
    rw [Text.endsWith, List.isSuffixOf_iff_suffix]
    exact exists_congr fun front => eq_comm
  -- The dot in front of the realm's host is the mark in front of its labels.
  rw [CoversLabels, Text.splitAll_inj, Text.splitAll_suffix_iff]
  by_cases wildcard : realm.wildcard = true
  · simp only [coversHost, wildcard, if_true, Bool.or_eq_true, decide_eq_true_eq, ends]
    grind
  · simp [coversHost, wildcard]

/-- Whether a realm path leads the path and the query of a URI: without a query by the segments of
the path, and with one by the parts of the query behind the same path. -/
def LeadsUri (realmPath : Text) (uri : Uri) : Prop :=
  match Text.cutTail '?' realmPath with
  | (path, none) => Text.Leads '/' path uri.path
  | (path, some query) =>
    uri.path = path ∧ ∃ own, uri.query = some own ∧ Text.Leads '&' query own

/-- The path of a realm is one of a URI, with a query that is not empty or without any. -/
theorem exists_path_query {source : Text} {realm : Realm} (parsed : parse? source = some realm) :
    ∃ path query, realm.path = path ++ Locator.trailing '?' query ∧ path ≠ [] ∧ '?' ∉ path := by
  cases readAs_of_parse? parsed with
  | every scheme exact => exact ⟨['/'], none, rfl, by simp, by simp⟩
  | @uri uri http https read dot fragment =>
    have normal := Uri.isNormal_of_parse read
    refine ⟨uri.path, uri.query, ?_, ?_, normal.tailCut.question⟩
    · -- A fragment would have been refused.
      rcases Locator.trailing_cases '#' uri.fragment with nothing | ⟨text, _, _, marked⟩
      · simp [Uri.locator, nothing]
      · simp [Uri.locator, marked] at fragment
    · -- A path in normal form begins with a slash.
      intro empty
      have slash := Uri.head?_normalPath normal.tailCut.starts
      rw [normal.path, empty] at slash
      cases slash

/-- The path of a realm covers a URI without a fragment exactly when it leads the URI. -/
theorem coversPath_locator_iff {source : Text} {realm : Realm}
    (parsed : parse? source = some realm) {uri : Uri} (question : '?' ∉ uri.path)
    (fragment : uri.fragment = none) :
    coversPath realm.path uri.locator.path = true ↔ LeadsUri realm.path uri := by
  have whole : uri.locator.path = uri.path ++ Locator.trailing '?' uri.query := by
    simp [Uri.locator, fragment, Locator.trailing]
  obtain ⟨path, query, same, nonempty, plain⟩ := exists_path_query parsed
  -- Cutting the realm's path at its question mark gives back what it is made of.
  rw [whole, same, LeadsUri]
  rcases Locator.trailing_cases '?' query with nothing | ⟨asked, some', _, marked⟩
  · have cut : Text.cutTail '?' path = (path, none) :=
      Text.cutTail_eq_iff.mpr ⟨(List.append_nil path).symm, plain⟩
    rw [nothing, List.append_nil, cut]
    exact coversPath_of_no_query nonempty plain question uri.query
  · have cut : Text.cutTail '?' (path ++ '?' :: asked) = (path, some asked) :=
      Text.cutTail_eq_iff.mpr ⟨rfl, plain⟩
    rw [marked, cut]
    exact coversPath_of_query plain some' question uri.query

/-- A realm admits a URL when it covers the parts of the URL's locator. -/
theorem admits_iff {realm : Realm} {url : Text} :
    realm.admits url = true ↔ ∃ locator, Locator.ofText? url = some locator ∧
      locator.scheme = realm.scheme ∧ locator.port = realm.port ∧ '*' ∉ locator.host ∧
      realm.coversHost locator.host = true ∧ coversPath realm.path locator.path = true := by
  -- A text without a locator is never admitted, and for any other the tests are those listed.
  unfold admits
  cases Locator.ofText? url with
  | none => simp
  | some locator => simp [and_assoc]

/-- A realm admits a URL without a fragment exactly when the URL normalizes with the scheme and the
port of the realm and without an asterisk in its host, the labels of its host are those of the
realm, or end with them when this is a wildcard, and the realm's path leads its path by segments,
or its query by parts. -/
theorem admits_iff_parts {source : Text} {realm : Realm} (parsed : parse? source = some realm)
    {url : Text} (unmarked : '#' ∉ url) :
    realm.admits url = true ↔ ∃ uri, Uri.parse url = .ok uri ∧ uri.scheme = realm.scheme ∧
      uri.effectivePort = realm.port ∧ '*' ∉ uri.host ∧ realm.CoversLabels uri.host ∧
      LeadsUri realm.path uri := by
  -- The locator of a URI has its parts, with path and query in one.
  have path : ∀ uri, Uri.parse url = .ok uri →
      (coversPath realm.path uri.locator.path = true ↔ LeadsUri realm.path uri) := fun uri read =>
    coversPath_locator_iff parsed (Uri.isNormal_of_parse read).tailCut.question
      (Uri.fragment_eq_none read unmarked)
  rw [admits_iff]
  constructor
  · rintro ⟨_, located, scheme, port, asterisk, host, covers⟩
    obtain ⟨uri, read, rfl⟩ := Locator.ofText?_eq_some_iff.mp located
    exact ⟨uri, read, scheme, port, asterisk, coversHost_iff.mp host, (path uri read).mp covers⟩
  · rintro ⟨uri, read, scheme, port, asterisk, labels, leads⟩
    exact ⟨uri.locator, Locator.ofText?_eq_some_iff.mpr ⟨uri, read, rfl⟩, scheme, port, asterisk,
      coversHost_iff.mpr labels, (path uri read).mpr leads⟩

/-- A wildcard with a query admits a URL of a subdomain with a part more in its query, but not one
whose query only goes on with more characters. -/
theorem admits_iff_parts_query :
    ∃ realm, parse? "http://*.example.com/a?x=1" = some realm ∧
      realm.admits "http://www.example.com/a?x=1&y=2" = true ∧
      realm.admits "http://www.example.com/a?x=10" = false := by
  have parsed : parse? "http://*.example.com/a?x=1" = some
      ⟨"http://*.example.com/a?x=1", .http, true, "example.com", 80, "/a?x=1"⟩ := by
    decide +kernel
  refine ⟨_, parsed, ?_, ?_⟩
  · -- Behind the query of the realm stands an ampersand, which is a boundary.
    have read : Uri.parse "http://www.example.com/a?x=1&y=2" =
        .ok ⟨.http, none, "www.example.com", none, "/a", some "x=1&y=2", none⟩ := by
      decide +kernel
    refine (admits_iff_parts parsed (by decide)).mpr ⟨_, read, rfl, rfl, by decide, ?_, ?_⟩
    · exact .inr ⟨rfl, .inr (by decide)⟩
    · exact ⟨rfl, _, rfl, by decide⟩
  · -- What follows the query begins with a digit, where a boundary would have to be.
    refine Bool.eq_false_iff.mpr fun admitted => ?_
    have read : Uri.parse "http://www.example.com/a?x=10" =
        .ok ⟨.http, none, "www.example.com", none, "/a", some "x=10", none⟩ := by
      decide +kernel
    obtain ⟨uri, read', _, _, _, _, _, own, known, leads⟩ :=
      (admits_iff_parts parsed (by decide)).mp admitted
    rw [read] at read'
    cases read'
    cases known
    exact absurd leads (by decide)

/-- What is covered by a path that a realm path covers is covered by this one. -/
theorem coversPath_trans {outer inner path : Text} (contains : coversPath outer inner = true)
    (covers : coversPath inner path = true) : coversPath outer path = true := by
  obtain ⟨rest, rfl, goes⟩ := coversPath_iff.mp contains
  obtain ⟨more, rfl, _⟩ := coversPath_iff.mp covers
  cases rest with
  | nil => simpa using covers
  | cons c rest =>
    -- The boundary is behind the outer path, wherever the longer path ends.
    refine coversPath_iff.mpr ⟨c :: rest ++ more, by simp, .inr ?_⟩
    rcases goes with nothing | boundary
    · cases nothing
    · simpa using boundary

/-- A realm without a wildcard is compared by its own text. -/
theorem locator_of_parse? {source : Text} {realm : Realm} (parsed : parse? source = some realm)
    (plain : realm.wildcard = false) :
    Locator.ofText? realm.source = some ⟨realm.scheme, realm.host, realm.port, realm.path⟩ := by
  cases readAs_of_parse? parsed with
  | every scheme exact => cases plain
  | @uri uri http https read dot fragment =>
    -- Nothing was taken out of the text.
    have whole : stripped source = source := if_neg (Bool.eq_false_iff.mp plain)
    rw [whole] at read
    exact Locator.ofText?_eq_some_iff.mpr ⟨uri, read, rfl⟩

/-- A realm that admits the text of another one, which has no wildcard, admits every URL that this
one admits. -/
theorem admits_trans (outer : Realm) {source : Text} {inner : Realm}
    (parsed : parse? source = some inner) (plain : inner.wildcard = false) {url : Text}
    (contains : outer.admits inner.source = true) (admits : inner.admits url = true) :
    outer.admits url = true := by
  obtain ⟨own, located, scheme, port, asterisk, host, path⟩ := admits_iff.mp contains
  rw [locator_of_parse? parsed plain] at located
  obtain rfl := Option.some.inj located
  obtain ⟨locator, found, scheme', port', _, host', path'⟩ := admits_iff.mp admits
  -- Without a wildcard the inner realm covers its own host alone.
  have same : locator.host = inner.host := by simpa [coversHost, plain] using host'
  rw [← same] at asterisk host
  exact admits_iff.mpr ⟨locator, found, scheme'.trans scheme, port'.trans port, asterisk, host,
    coversPath_trans path path'⟩

/-- A wildcard contains a realm of one of its hosts that has a query. A URL with one part more and a
fragment behind it is admitted by both. -/
theorem admits_trans_fragment :
    ∃ outer inner, parse? "https://*.example.com/a/" = some outer ∧
      parse? "https://b.example.com/a/c?x=1&" = some inner ∧ inner.wildcard = false ∧
      outer.admits inner.source = true ∧
      inner.admits "https://B.example.com/a/./c?x=1&y#z" = true ∧
      outer.admits "https://B.example.com/a/./c?x=1&y#z" = true := by
  -- The parsed realms and what they admit are evaluated, and the rest is an instance.
  have parsed : parse? "https://*.example.com/a/" = some
      ⟨"https://*.example.com/a/", .https, true, "example.com", 443, "/a/"⟩ := by
    decide +kernel
  have parsed' : parse? "https://b.example.com/a/c?x=1&" = some
      ⟨"https://b.example.com/a/c?x=1&", .https, false, "b.example.com", 443, "/a/c?x=1&"⟩ := by
    decide +kernel
  have contains : admits ⟨"https://*.example.com/a/", .https, true, "example.com", 443, "/a/"⟩
      "https://b.example.com/a/c?x=1&" = true := by
    decide +kernel
  have admitted : admits ⟨"https://b.example.com/a/c?x=1&", .https, false, "b.example.com", 443,
      "/a/c?x=1&"⟩ "https://B.example.com/a/./c?x=1&y#z" = true := by
    decide +kernel
  exact ⟨_, _, parsed, parsed', rfl, contains, admitted,
    admits_trans _ parsed' rfl contains admitted⟩

end Realm

end RelyingParty
