import RelyingParty.Proofs.Realm.Coverage

/-! A realm admits the URL at which it describes itself, unless the host of a wildcard takes a colon
for that of a port. -/

namespace RelyingParty

open Text (marked)

/-- A part that a locator keeps is written behind its mark. -/
theorem Locator.trailing_eq (mark : Char) (part : Option Text) :
    trailing mark part = marked mark (part.filter (· ≠ [])) := by
  -- An empty part is dropped by both, and a missing one has no mark.
  match part with
  | none => rfl
  | some [] => rfl
  | some (c :: rest) => rfl

namespace Uri

/-- The label that stands in for a wildcard. -/
def www : Text := "www."

/-- The label is printable, and it has no mark of an authority, no triplet and no asterisk. -/
theorem plain_of_mem_www {c : Char} (inside : c ∈ www) :
    endsAuthority c = false ∧ c ≠ '@' ∧ c ≠ '%' ∧ c ≠ '*' ∧ isGraphic c = true := by
  -- There are four characters to try.
  have tried : www.all (fun c => !endsAuthority c && c != '@' && c != '%' && c != '*' &&
      isGraphic c) = true := by decide
  simpa [and_assoc] using List.all_eq_true.mp tried c inside

/-- The URI at which a wildcard over the host of a URI describes itself: the label stands in front
of the host, and what a locator leaves out is left out. -/
def atWww (uri : Uri) : Uri where
  scheme := uri.scheme
  userinfo := none
  host := www ++ uri.host
  port := uri.port
  path := uri.path
  query := uri.query.filter (· ≠ [])
  fragment := none

/-- The host part with the label in front is the one of the host. -/
theorem hostText_atWww (uri : Uri) : uri.atWww.hostText = www ++ uri.hostText :=
  List.append_assoc www uri.host _

/-- A query is left out as a whole. -/
theorem query_atWww (uri : Uri) : uri.atWww.query = none ∨ uri.atWww.query = uri.query := by
  -- Only an empty query is dropped, and the locator keeps any other.
  obtain ⟨_, _, _, _, _, query, _⟩ := uri
  match query with
  | none => exact .inl rfl
  | some [] => exact .inl rfl
  | some (c :: rest) => exact .inr rfl

/-- A normal form has a port exactly when the one in effect is not the usual one. -/
theorem IsNormal.isSome_port_iff {uri : Uri} (normal : uri.IsNormal) :
    uri.port.isSome = true ↔ uri.effectivePort ≠ uri.scheme.defaultPort := by
  -- In a normal form the usual port is not written, so a written one differs from it.
  cases known : uri.port with
  | none => simp [effectivePort, known]
  | some n => simp [effectivePort, known, (normal.port n known).2]

/-- The path of a locator without a fragment ends with the query that is left. -/
theorem locator_path {uri : Uri} (plain : '#' ∉ uri.locator.path) :
    uri.locator.path = uri.path ++ marked '?' uri.atWww.query := by
  rcases Locator.trailing_cases '#' uri.fragment with nothing | ⟨text, _, _, mark⟩
  · simp [locator, nothing, Locator.trailing_eq, atWww]
  · -- A fragment would be in the path.
    simp [locator, mark] at plain

/-- What follows the host was there before, and a mark stood behind it. -/
theorem exists_tail_atWww (uri : Uri) : ∃ more,
    tail uri.path uri.query uri.fragment = tail uri.path uri.atWww.query none ++ more ∧
      ∀ c ∈ more.head?, isMark c = true := by
  -- Whether or not the query stays, the fragment at least is what is left over.
  rcases query_atWww uri with none | same
  · refine ⟨marked '?' uri.query ++ marked '#' uri.fragment, by simp [tail, none, marked], ?_⟩
    cases uri.query with
    | none => exact isMark_of_head?_marked rfl uri.fragment
    | some query => simp [marked, isMark, isUnreserved]
  · refine ⟨marked '#' uri.fragment, by simp [tail, same, marked], ?_⟩
    exact isMark_of_head?_marked rfl uri.fragment

/-- A query that is left is behind the path without a number sign. -/
theorem IsNormal.tailCut_atWww {uri : Uri} (normal : uri.IsNormal) :
    TailCut uri.path uri.atWww.query none := by
  refine ⟨normal.tailCut.starts, normal.tailCut.question, fun inside => normal.tailCut.sign ?_⟩
  -- Without its fragment the tail has no number sign that it did not have.
  rcases query_atWww uri with none | same
  · rw [none] at inside
    exact List.mem_append_left _ (by simpa [marked] using inside)
  · rwa [same] at inside

/-- The label and the host are in an authority without user information. -/
theorem IsNormal.cut_atWww {uri : Uri} (normal : uri.IsNormal) :
    HostCut uri.scheme.text none uri.atWww.hostText (tail uri.path uri.atWww.query none) := by
  -- The cut of the normal form stays one with the label in front of its host.
  rw [hostText_atWww]
  refine ⟨normal.cut.colon, by simp, ?_, ?_, normal.tailCut_atWww.ends⟩
  · intro c inside
    rcases List.mem_append.mp inside with label | host
    · exact (plain_of_mem_www label).1
    · exact normal.cut.within c host
  · intro inside
    rcases List.mem_append.mp inside with label | host
    · exact (plain_of_mem_www label).2.1 rfl
    · exact normal.cut.sign host

/-- The label is read as it is written, in front of any canonical form in lower case. -/
theorem canonicalEscapes?_www {host : Text}
    (canonical : (canonicalEscapes? host).map Text.asciiLower = some host) :
    (canonicalEscapes? (www ++ host)).map Text.asciiLower = some (www ++ host) := by
  obtain ⟨written, read, lower⟩ := Option.map_eq_some_iff.mp canonical
  -- A label without percent signs ends no triplet and begins none.
  have label : canonicalEscapes? www = some www :=
    canonicalEscapes?_of_no_percent fun inside => (plain_of_mem_www inside).2.2.1 rfl
  rw [canonicalEscapes?_append label, read]
  simp only [Option.map_some, Text.asciiLower_append, lower]
  rfl

/-- The URI of a wildcard is in normal form when that of its host is. -/
theorem IsNormal.atWww {uri : Uri} (normal : uri.IsNormal) : uri.atWww.IsNormal := by
  obtain ⟨more, whole, mark⟩ := exists_tail_atWww uri
  obtain ⟨front, last⟩ := List.forall_mem_append.mp (render_eq uri ▸ normal.graphic)
  obtain ⟨_, host⟩ := List.forall_mem_append.mp front
  rw [whole] at last
  refine ⟨isGraphic_render ?_ ?_ ?_, normal.cut_atWww, normal.tailCut_atWww, normal.path, rfl, ?_,
    canonicalEscapes?_www normal.host, by simp [Uri.atWww, www], ?_, normal.port⟩
  · intro c inside
    cases inside
  · -- The label and the host are printable.
    intro c inside
    rcases List.mem_append.mp inside with label | name
    · exact (plain_of_mem_www label).2.2.2.2
    · exact host c (List.mem_append_left _ name)
  · exact fun c inside => last c (List.mem_append_left _ inside)
  · -- What is left of a canonical form in front of a mark is canonical.
    have behind := normal.behind
    rw [whole] at behind
    exact ((canonical_append_iff mark).mp behind).1
  · -- The label is no bracket.
    intro bracket
    cases bracket

/-- Host and port of a wildcard's URI are told apart when a port is written or no colon is in the
host. -/
theorem tellsPort_atWww {uri : Uri} :
    uri.atWww.TellsPort ↔ uri.port.isSome = true ∨ ':' ∉ uri.host := by
  -- The label hides a bracket at the front, and it adds no colon.
  have bracket : uri.atWww.host.head? ≠ some '[' := by simp [atWww, www]
  have colon : ':' ∈ uri.atWww.host ↔ ':' ∈ uri.host := by simp [atWww, www]
  rw [TellsPort, colon, or_iff_right bracket]
  rfl

/-- A host that is read where it cannot be told from a port has lost a colon. -/
theorem IsNormal.count_colon_lt {uri other : Uri} (normal : uri.IsNormal)
    (read : parse uri.atWww.render = .ok other) (port : uri.port = none) (colon : ':' ∈ uri.host) :
    other.host.count ':' < uri.host.count ':' := by
  -- The host that is read ends in front of the last colon of the host part.
  obtain ⟨number, found⟩ := normal.atWww.hostPort?_of_parse read
  obtain ⟨written, cut, _⟩ := hostPort?_eq_some_iff.mp found
  obtain ⟨whole, last⟩ := splitPort?_eq_some_iff.mp cut
  have text : uri.atWww.hostText = www ++ uri.host := by
    simp [hostText, Uri.atWww, port, marked]
  have bracket : uri.atWww.hostText.head? ≠ some '[' := by simp [text, www]
  rw [if_neg bracket] at last
  have count : (www ++ uri.host).count ':' = uri.host.count ':' := by simp [www]
  rw [text] at whole
  cases written with
  | none =>
    -- The last colon is not the host's when nothing is cut off.
    simp only [marked, List.append_nil] at whole
    rw [Option.getD_none, ← whole] at last
    exact absurd (List.mem_append_right _ colon) last
  | some digits =>
    have parts := congrArg (List.count ':') whole
    simp only [count, marked, List.count_append, List.count_cons_self] at parts
    omega

end Uri

namespace Realm

/-- A wildcard describes itself at its host with the label in front. -/
theorem discoveryUrl_eq {uri : Uri} (normal : uri.IsNormal) (fragment : '#' ∉ uri.locator.path)
    (source : Text) :
    discoveryUrl ⟨source, uri.scheme, true, uri.host, uri.effectivePort, uri.locator.path⟩ =
      uri.atWww.render := by
  -- The realm writes its port when it is not the usual one, and then the URI has it too.
  have port : (if uri.effectivePort = uri.scheme.defaultPort then []
      else ':' :: Text.ofNat uri.effectivePort) = marked ':' (uri.port.map Text.ofNat) := by
    have written := normal.isSome_port_iff
    cases known : uri.port with
    | none => simp [Uri.effectivePort, known, marked]
    | some n =>
      simp only [known, Option.isSome_some, true_iff] at written
      rw [if_neg written, Uri.effectivePort, known]
      rfl
  rw [Uri.render_eq]
  simp only [discoveryUrl, if_true, port, Uri.locator_path fragment]
  simp [Uri.heading, Uri.signed, Uri.hostText, Uri.atWww, Uri.www, Uri.tail, marked]

/-- What covers a host ends with it. -/
theorem suffix_of_coversHost {realm : Realm} {host : Text}
    (covered : realm.coversHost host = true) : realm.host <:+ host := by
  -- A wildcard covers its own host and what a dot joins to it; any other realm just its host.
  unfold coversHost at covered
  split at covered
  · simp only [Bool.or_eq_true, decide_eq_true_eq, Text.endsWith, List.isSuffixOf_iff_suffix]
      at covered
    rcases covered with (none | same) | ends
    · rw [none]
      exact List.nil_suffix
    · subst same
      exact List.suffix_rfl
    · exact (List.suffix_cons '.' realm.host).trans ends
  · obtain rfl := of_decide_eq_true covered
    exact List.suffix_rfl

/-- A wildcard admits its URL when host and port are told apart in it, and else does not. -/
theorem admits_atWww_iff {uri : Uri} (normal : uri.IsNormal) (fragment : '#' ∉ uri.locator.path)
    (plain : '*' ∉ uri.host) (source : Text) :
    admits ⟨source, uri.scheme, true, uri.host, uri.effectivePort, uri.locator.path⟩
      uri.atWww.render = true ↔ uri.port.isSome = true ∨ ':' ∉ uri.host := by
  rw [← Uri.tellsPort_atWww, ← normal.atWww.parse_render_iff, admits_iff]
  -- Where the URL is read back as the URI it is written of, scheme, port and path are the realm's.
  constructor
  · rintro ⟨locator, located, _, _, _, covered, _⟩
    obtain ⟨other, read, rfl⟩ := Locator.ofText?_eq_some_iff.mp located
    refine normal.atWww.parse_render_iff.mpr (Uri.tellsPort_atWww.mpr ?_)
    -- Otherwise the host that is read has lost a colon, and cannot end with the realm's.
    by_contra untold
    obtain ⟨port, colon⟩ := not_or.mp untold
    have fewer := normal.count_colon_lt read (by simpa using port) (not_not.mp colon)
    have least := (suffix_of_coversHost covered).sublist.count_le ':'
    have host : other.locator.host = other.host := rfl
    rw [host] at least
    exact absurd fewer (by simpa using least)
  · intro read
    refine ⟨uri.atWww.locator, Locator.ofText?_eq_some_iff.mpr ⟨_, read, rfl⟩, rfl, rfl, ?_, ?_, ?_⟩
    · intro inside
      rcases List.mem_append.mp inside with label | host
      · exact (Uri.plain_of_mem_www label).2.2.2.1 rfl
      · exact plain host
    · -- The dot of the label stands in front of the host.
      have ends : '.' :: uri.host <:+ Uri.www ++ uri.host := ⟨"www".toList, rfl⟩
      have covered : Text.endsWith ('.' :: uri.host) (Uri.www ++ uri.host) = true :=
        List.isSuffixOf_iff_suffix.mpr ends
      simp only [coversHost, if_true, Bool.or_eq_true]
      exact .inr covered
    · -- The path is the same one, with the query that is left.
      have kept : Locator.trailing '?' uri.atWww.query = marked '?' uri.atWww.query := by
        simp [Locator.trailing_eq, Uri.atWww]
      have path : uri.atWww.locator.path = uri.locator.path := by
        rw [Uri.locator_path fragment, ← kept]
        exact List.append_nil _
      rw [path]
      exact coversPath_refl _

/-- A realm without an asterisk in its host admits the URL at which it describes itself exactly when
it is no wildcard, or its port is not the usual one, or no colon is in its host. -/
theorem admits_discoveryUrl_iff {source : Text} {realm : Realm}
    (parsed : parse? source = some realm) (plain : '*' ∉ realm.host) :
    realm.admits realm.discoveryUrl = true ↔
      (realm.wildcard = true → realm.port ≠ realm.scheme.defaultPort ∨ ':' ∉ realm.host) := by
  cases readAs_of_parse? parsed with
  | every scheme exact =>
    -- The realm of every host covers the label alone.
    refine iff_of_true ?_ fun _ => .inr List.not_mem_nil
    subst exact
    cases scheme with
    | http => decide +kernel
    | https => decide +kernel
  | @uri uri http https read dot fragment =>
    have normal := Uri.isNormal_of_parse read
    cases wildcard : Text.includes "://*." source with
    | false =>
      -- Without a wildcard the realm is compared with itself.
      rw [wildcard] at parsed
      refine iff_of_true ?_ fun impossible => by cases impossible
      exact admits_iff.mpr ⟨_, locator_of_parse? parsed rfl, rfl, rfl, plain,
        decide_eq_true rfl, coversPath_refl _⟩
    | true =>
      rw [discoveryUrl_eq normal fragment source, admits_atWww_iff normal fragment plain source,
        normal.isSome_port_iff]
      exact ⟨fun told _ => told, fun told => told rfl⟩

/-- A wildcard with a port and a query admits the URL at which it describes itself. One whose host
ends with a colon describes itself at another host, and one over an address in brackets nowhere. -/
theorem admits_discoveryUrl_colon :
    (∃ realm, parse? "https://*.Example.com:8443/rp?x=1" = some realm ∧ '*' ∉ realm.host ∧
      realm.discoveryUrl = ("https://www.example.com:8443/rp?x=1" : Text) ∧
      realm.admits realm.discoveryUrl = true) ∧
    (∃ realm, parse? "http://*.host::/" = some realm ∧ '*' ∉ realm.host ∧
      realm.discoveryUrl = ("http://www.host:/" : Text) ∧
      realm.admits realm.discoveryUrl = false) ∧
    ∃ realm, parse? "http://*.[::1]/" = some realm ∧ '*' ∉ realm.host ∧
      realm.discoveryUrl = ("http://www.[::1]/" : Text) ∧
      realm.admits realm.discoveryUrl = false := by
  refine ⟨?_, ?_, ?_⟩
  · have parsed : parse? "https://*.Example.com:8443/rp?x=1" = some
        ⟨"https://*.Example.com:8443/rp?x=1", .https, true, "example.com", 8443, "/rp?x=1"⟩ := by
      decide +kernel
    refine ⟨_, parsed, by decide, by decide, ?_⟩
    exact (admits_discoveryUrl_iff parsed (by decide)).mpr fun _ => .inl (by decide)
  · -- No port is written, and the colon of the host is there to be cut at.
    have parsed : parse? "http://*.host::/" = some
        ⟨"http://*.host::/", .http, true, "host:", 80, "/"⟩ := by
      decide +kernel
    refine ⟨_, parsed, by decide, by decide, Bool.eq_false_iff.mpr fun admitted => ?_⟩
    have told := (admits_discoveryUrl_iff parsed (by decide)).mp admitted rfl
    exact absurd told (by decide)
  · -- The address has colons, and behind the label no bracket tells them from a port.
    have parsed : parse? "http://*.[::1]/" = some
        ⟨"http://*.[::1]/", .http, true, "[::1]", 80, "/"⟩ := by
      decide +kernel
    refine ⟨_, parsed, by decide, by decide, Bool.eq_false_iff.mpr fun admitted => ?_⟩
    have told := (admits_discoveryUrl_iff parsed (by decide)).mp admitted rfl
    exact absurd told (by decide)

end Realm

end RelyingParty
