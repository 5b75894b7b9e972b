import RelyingParty.Proofs.Uri.Parse
import RelyingParty.Proofs.Uri.Port

/-! When a realm is a wildcard because its host says so. -/

namespace RelyingParty

/-- A URL has a locator exactly when it normalizes. -/
theorem Locator.ofText?_eq_some_iff {url : Text} {locator : Locator} :
    ofText? url = some locator ↔ ∃ uri, Uri.parse url = .ok uri ∧ uri.locator = locator := by
  -- A locator is read off the URI, which is all that can be missing.
  unfold ofText?
  cases Uri.parse url with
  | ok uri => simp
  | error fault => simp

namespace Realm

/-- The URL of which a realm takes its host and path: the text of the realm without the wildcard
label, when it seems to have one. -/
def stripped (source : Text) : Text :=
  if Text.includes "://*." source then Text.removeFirst "*." source else source

/-- What a realm is read as: the realm of every host, or what its stripped text normalizes to. -/
inductive ReadAs (source : Text) : Realm → Prop
  | every (scheme : Scheme) (exact : source = scheme.text ++ "://*/") :
    ReadAs source (everyHost source scheme)
  -- The two realms of every host are texts of their own, and are not stripped.
  | uri {uri : Uri} (http : source ≠ "http://*/") (https : source ≠ "https://*/")
    (read : Uri.parse (stripped source) = .ok uri) (dot : Text.startsWith "." uri.host = false)
    (fragment : '#' ∉ uri.locator.path) :
    ReadAs source ⟨source, uri.scheme, Text.includes "://*." source, uri.host, uri.effectivePort,
      uri.locator.path⟩

/-- Every realm is read as one of both. -/
theorem readAs_of_parse? {source : Text} {realm : Realm} (parsed : parse? source = some realm) :
    ReadAs source realm := by
  -- The two texts that stand for every host are tried first.
  unfold parse? at parsed
  split at parsed
  · cases parsed
    exact .every .http ‹_›
  split at parsed
  · cases parsed
    exact .every .https ‹_›
  rename_i http https
  -- Any other text has been normalized without its label, and neither refusal has taken place.
  simp only [Option.bind_eq_bind, Option.bind_eq_some_iff] at parsed
  obtain ⟨locator, located, ends⟩ := parsed
  obtain ⟨uri, read, rfl⟩ := Locator.ofText?_eq_some_iff.mp located
  split at ends
  · cases ends
  · rename_i plain
    cases ends
    simp only [Bool.or_eq_true, List.contains_iff_mem, not_or, Bool.not_eq_true] at plain
    exact .uri http https read plain.1 plain.2

/-- Whether the host part of a text begins with the wildcard label. -/
def HostIsWildcard (source : Text) : Prop :=
  ∃ front host behind, Uri.cutHost? source = some (front, '*' :: '.' :: host, behind)

/-- Whether a realm follows the host part of its text: it is a wildcard exactly when it is the realm
of every host or its host part begins with the wildcard label, and then its host is that of the
text without just this label, and its path that of the text itself. -/
structure FollowsHost (source : Text) (realm : Realm) : Prop where
  /-- Only the host part makes a wildcard. -/
  wildcard : realm.wildcard = true ↔
    source = "http://*/" ∨ source = "https://*/" ∨ HostIsWildcard source
  /-- Host and path are those of the text without the label at the start of its host part. -/
  removed : ∀ front host behind,
    Uri.cutHost? source = some (front, '*' :: '.' :: host, behind) →
      ∃ uri, Uri.parse (front ++ host ++ behind) = .ok uri ∧
        realm.host = uri.host ∧ realm.path = uri.locator.path
  /-- The label is all that the text itself has more in its host, and it has the same path. -/
  kept : ∀ uri, HostIsWildcard source → Uri.parse source = .ok uri →
    uri.host = '*' :: '.' :: realm.host ∧ uri.locator.path = realm.path

/-- The realms of every host have no wildcard label. -/
theorem every_host_plain {source : Text} {scheme : Scheme}
    (exact : source = scheme.text ++ "://*/") :
    Text.includes "://*." source = false ∧ ¬HostIsWildcard source := by
  -- Their host part is the asterisk alone, with no dot behind it.
  have cut : Uri.cutHost? source = some (scheme.text ++ "://", ['*'], ['/']) ∧
      Text.includes "://*." source = false := by
    cases scheme with
    | http => subst exact; decide
    | https => subst exact; decide
  refine ⟨cut.2, ?_⟩
  rintro ⟨front, host, behind, found⟩
  rw [cut.1] at found
  cases found

/-- The part behind the wildcard label is a host part of its own. -/
theorem behind_label {scheme host behind : Text} {userinfo : Option Text}
    (cut : Uri.HostCut scheme userinfo ('*' :: '.' :: host) behind) :
    Uri.HostCut scheme userinfo host behind where
  -- Each property of the cut is one of all characters, and there are two fewer now.
  colon := cut.colon
  info := cut.info
  within c inside := cut.within c (.tail _ (.tail _ inside))
  sign inside := cut.sign (.tail _ (.tail _ inside))
  ends := cut.ends

/-- A wildcard label in front of a host part stands in front of the host, whatever else of the URI
is different. -/
theorem host_label {scheme scheme' host behind behind' : Text} {userinfo userinfo' : Option Text}
    {whole part : Uri} (cut : Uri.HostCut scheme userinfo ('*' :: '.' :: host) behind)
    (read : Uri.parse (Uri.heading scheme userinfo ++ ('*' :: '.' :: host) ++ behind) = .ok whole)
    (cut' : Uri.HostCut scheme' userinfo' host behind')
    (read' : Uri.parse (Uri.heading scheme' userinfo' ++ host ++ behind') = .ok part) :
    whole.host = '*' :: '.' :: part.host := by
  obtain ⟨_, labelled, _, name, _, escapes, _, found, hostIs, _⟩ := Uri.parse_heading_eq_ok cut read
  obtain ⟨_, canonical, _, name', _, escapes', _, found', hostIs', _⟩ :=
    Uri.parse_heading_eq_ok cut' read'
  -- The label has no triplet, so the host parts differ by it in canonical form too.
  rw [Uri.canonicalEscapes?_cons (by decide), Uri.canonicalEscapes?_cons (by decide), escapes']
    at escapes
  cases escapes
  -- Nor has it a bracket or a colon, so it does not move the port.
  have same := Uri.hostPort?_append ['*', '.'] (by decide) (by decide) found found'
  rw [hostIs, hostIs', same]
  rfl

/-- The path of a URI does not depend on what stands in front of it. -/
theorem path_of_behind {scheme scheme' host host' behind : Text} {userinfo userinfo' : Option Text}
    {uri uri' : Uri} (cut : Uri.HostCut scheme userinfo host behind)
    (read : Uri.parse (Uri.heading scheme userinfo ++ host ++ behind) = .ok uri)
    (cut' : Uri.HostCut scheme' userinfo' host' behind)
    (read' : Uri.parse (Uri.heading scheme' userinfo' ++ host' ++ behind) = .ok uri') :
    uri.locator.path = uri'.locator.path := by
  -- Both paths are made of the same canonical text.
  obtain ⟨_, _, after, _, _, _, escapes, _, _, pathIs⟩ := Uri.parse_heading_eq_ok cut read
  obtain ⟨_, _, after', _, _, _, escapes', _, _, pathIs'⟩ := Uri.parse_heading_eq_ok cut' read'
  rw [escapes] at escapes'
  cases escapes'
  rw [pathIs, pathIs']

/-- A label in front of a host part, but not in the scheme, is in the user information, and what is
left without it is a heading too. -/
theorem heading_without_label {scheme host behind before after : Text} {userinfo : Option Text}
    (cut : Uri.HostCut scheme userinfo host behind) (name : Scheme.isName scheme = true)
    (labelled : Uri.heading scheme userinfo = before ++ '*' :: '.' :: after) :
    ∃ userinfo', Uri.heading scheme userinfo' = before ++ after ∧
      Uri.HostCut scheme userinfo' host behind := by
  have plain : '*' ∉ scheme ++ "://" :=
    List.not_mem_append (Scheme.not_mem_of_isName (by decide) name) (by decide)
  -- A label that began earlier would have its asterisk there.
  obtain ⟨front, rfl, signs⟩ : ∃ front, before = scheme ++ "://" ++ front ∧
      Uri.signed userinfo = front ++ '*' :: '.' :: after := by
    rcases List.append_eq_append_iff.mp labelled with ⟨front, whole, signs⟩ | ⟨more, whole, signs⟩
    · exact ⟨front, whole, signs⟩
    · cases more with
      | nil => exact ⟨[], by simpa using whole.symm, by simpa using signs.symm⟩
      | cons c more =>
        obtain ⟨rfl, _⟩ := List.cons.inj signs
        rw [whole] at plain
        exact absurd (List.mem_append_right _ (.head _)) plain
  cases userinfo with
  | none => simp [Uri.signed] at signs
  | some info =>
    -- The at sign that ends the user information is not the dot of the label.
    rcases List.eq_nil_or_concat' after with rfl | ⟨back, last, rfl⟩
    · have ends := congrArg List.getLast? signs
      simp [Uri.signed] at ends
    · have parts : info ++ ['@'] = (front ++ '*' :: '.' :: back) ++ [last] := by
        simpa [Uri.signed] using signs
      obtain ⟨rfl, same⟩ := List.append_inj' parts rfl
      cases same
      refine ⟨some (front ++ back), by simp [Uri.heading, Uri.signed], cut.colon, ?_, cut.within,
        cut.sign, cut.ends⟩
      rintro _ ⟨⟩ c inside
      refine cut.info _ rfl c ?_
      rcases List.mem_append.mp inside with early | late
      · exact List.mem_append_left _ early
      · exact List.mem_append_right _ (.tail _ (.tail _ late))

/-- The first label of a text is a given one, or it stands in front of that one. -/
theorem splitAt?_label (front back : Text) :
    Text.splitAt? "*." (front ++ '*' :: '.' :: back) = some (front, back) ∨
      ∃ before after, front = before ++ '*' :: '.' :: after ∧
        Text.splitAt? "*." (front ++ '*' :: '.' :: back) =
          some (before, after ++ '*' :: '.' :: back) := by
  obtain ⟨before, after, found, shorter⟩ := Text.exists_splitAt?_append front "*." back
  have label : front ++ "*." ++ back = front ++ '*' :: '.' :: back := by simp
  rw [label] at found
  have whole : front ++ '*' :: '.' :: back = before ++ '*' :: '.' :: after := by
    simpa using Text.eq_append_of_splitAt? found
  rcases List.append_eq_append_iff.mp whole with ⟨more, rfl, same⟩ | ⟨more, rfl, same⟩
  · -- The first label does not stand behind the given one.
    obtain rfl : more = [] := by
      rw [List.length_append] at shorter
      exact List.length_eq_zero_iff.mp (by omega)
    cases same
    exact .inl (by simpa using found)
  · -- Two labels do not overlap: the dot of one is not the asterisk of the other.
    match more, same with
    | [], same =>
      cases same
      exact .inl (by simpa using found)
    | [c], same => simp at same
    | c :: d :: more, same =>
      cases same
      exact .inr ⟨before, more, rfl, found⟩

/-- When what is left without the first label has the host of the text without the label of its
host, the first label is that one. -/
theorem splitAt?_of_host_eq {source front host behind : Text} {left part : Uri}
    (cut : Uri.cutHost? source = some (front, '*' :: '.' :: host, behind))
    (read : Uri.parse (Text.removeFirst "*." source) = .ok left)
    (read' : Uri.parse (front ++ host ++ behind) = .ok part) (same : left.host = part.host) :
    Text.splitAt? "*." source = some (front, host ++ behind) := by
  -- The first label of the text either is the one of the host or stands in front of it.
  obtain ⟨scheme, userinfo, rfl, rfl, parts⟩ := Uri.cutHost?_eq_some_iff.mp cut
  rw [List.append_assoc] at read ⊢
  rcases splitAt?_label (Uri.heading scheme userinfo) (host ++ behind) with
    first | ⟨before, after, labelled, first⟩
  · exact first
  · -- What is removed is in the user information, and the host keeps its label.
    obtain ⟨name, _⟩ := Uri.parse_heading_eq_ok (behind_label parts) read'
    obtain ⟨userinfo', heading, parts'⟩ := heading_without_label parts name labelled
    have labels : Uri.parse (Uri.heading scheme userinfo' ++ '*' :: '.' :: host ++ behind) =
        .ok left := by
      simp only [Text.removeFirst, List.cons_append, first] at read
      rw [heading]
      simpa using read
    have doubled := same.symm.trans (host_label parts' labels (behind_label parts) read')
    have lengths := congrArg List.length doubled
    rw [List.length_cons, List.length_cons] at lengths
    omega

/-- The text without the label of its host differs in nothing but this label. -/
theorem host_path_of_label {source front host behind : Text} {whole part : Uri}
    (cut : Uri.cutHost? source = some (front, '*' :: '.' :: host, behind))
    (read : Uri.parse source = .ok whole) (read' : Uri.parse (front ++ host ++ behind) = .ok part) :
    whole.host = '*' :: '.' :: part.host ∧ whole.locator.path = part.locator.path := by
  -- With the cut known, host and path are compared one by one.
  obtain ⟨scheme, userinfo, rfl, rfl, parts⟩ := Uri.cutHost?_eq_some_iff.mp cut
  exact ⟨host_label parts read (behind_label parts) read',
    path_of_behind parts read (behind_label parts) read'⟩

/-- A realm follows its host exactly when the label stands behind a scheme anywhere in its text if
and only if its host part begins with it, and no label stands in front of that one. -/
theorem followsHost_iff {source : Text} {realm : Realm} (parsed : parse? source = some realm) :
    FollowsHost source realm ↔
      (Text.includes "://*." source = true ↔ HostIsWildcard source) ∧
      ∀ front host behind, Uri.cutHost? source = some (front, '*' :: '.' :: host, behind) →
        Text.splitAt? "*." source = some (front, host ++ behind) := by
  constructor
  · -- A realm that follows its host has lost the label that its host begins with.
    intro follows
    cases readAs_of_parse? parsed with
    | every scheme exact =>
      obtain ⟨plain, other⟩ := every_host_plain exact
      refine ⟨iff_of_false (Bool.eq_false_iff.mp plain) other, fun front host behind cut => ?_⟩
      exact absurd ⟨front, host, behind, cut⟩ other
    | @uri uri http https read dot fragment =>
      have same : Text.includes "://*." source = true ↔ HostIsWildcard source :=
        follows.wildcard.trans ((or_iff_right http).trans (or_iff_right https))
      refine ⟨same, fun front host behind cut => ?_⟩
      -- The text without the label of the host is read to the same host, so that label was removed.
      obtain ⟨part, read', hostIs, _⟩ := follows.removed front host behind cut
      rw [stripped, if_pos (same.mpr ⟨front, host, behind, cut⟩)] at read
      exact splitAt?_of_host_eq cut read read' hostIs
  · -- The label that is removed is the one of the host, and the text is read without just that.
    rintro ⟨same, first⟩
    cases readAs_of_parse? parsed with
    | every scheme exact =>
      obtain ⟨plain, other⟩ := every_host_plain exact
      refine ⟨iff_of_true rfl ?_, fun front host behind cut => ?_,
        fun uri wildcard => absurd wildcard other⟩
      · cases scheme with
        | http => exact .inl exact
        | https => exact .inr (.inl exact)
      · exact absurd ⟨front, host, behind, cut⟩ other
    | @uri uri http https read dot fragment =>
      have removed : ∀ front host behind,
          Uri.cutHost? source = some (front, '*' :: '.' :: host, behind) →
            Uri.parse (front ++ host ++ behind) = .ok uri := by
        intro front host behind cut
        rw [stripped, if_pos (same.mpr ⟨front, host, behind, cut⟩), Text.removeFirst,
          first front host behind cut] at read
        simpa using read
      refine ⟨same.trans ((or_iff_right http).trans (or_iff_right https)).symm, ?_, ?_⟩
      · exact fun front host behind cut => ⟨uri, removed front host behind cut, rfl, rfl⟩
      · -- Removing a label of the host leaves scheme and path as they are.
        rintro whole ⟨front, host, behind, cut⟩ read'
        exact host_path_of_label cut read' (removed front host behind cut)

/-- A realm with the label at the start of its host follows it, whatever its query has; one with the
label in its query alone is a wildcard that does not. -/
theorem followsHost_label_in_query :
    (∃ realm, parse? "http://*.example.com/?u=http://*.evil.com/" = some realm ∧
      FollowsHost "http://*.example.com/?u=http://*.evil.com/" realm) ∧
    ∃ realm, parse? "http://example.com/?u=http://*.evil.com/" = some realm ∧
      realm.wildcard = true ∧ ¬FollowsHost "http://example.com/?u=http://*.evil.com/" realm := by
  constructor
  · -- Here the first label of the text is the one the host begins with.
    refine ⟨⟨"http://*.example.com/?u=http://*.evil.com/", .http, true, "example.com", 80,
      "/?u=http://*.evil.com/"⟩, by decide +kernel, ?_⟩
    have cut : Uri.cutHost? "http://*.example.com/?u=http://*.evil.com/" =
        some ("http://".toList, '*' :: '.' :: "example.com".toList,
          "/?u=http://*.evil.com/".toList) := by
      decide +kernel
    refine (followsHost_iff (by decide +kernel)).mpr
      ⟨iff_of_true (by decide +kernel) ⟨_, _, _, cut⟩, fun front host behind cut' => ?_⟩
    rw [cut] at cut'
    cases cut'
    decide +kernel
  · refine ⟨⟨"http://example.com/?u=http://*.evil.com/", .http, true, "example.com", 80,
      "/?u=http://evil.com/"⟩, by decide +kernel, rfl, ?_⟩
    -- The text has the label behind a scheme, but in the query, and its host is plain.
    intro follows
    obtain ⟨front, host, behind, cut⟩ :=
      ((followsHost_iff (by decide +kernel)).mp follows).1.mp (by decide +kernel)
    have own : Uri.cutHost? "http://example.com/?u=http://*.evil.com/" =
        some ("http://".toList, "example.com".toList, "/?u=http://*.evil.com/".toList) := by
      decide +kernel
    rw [own] at cut
    cases cut

end Realm

end RelyingParty
