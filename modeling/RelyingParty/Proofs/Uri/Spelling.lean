import RelyingParty.Proofs.Uri.Parse
import RelyingParty.Proofs.Uri.Port

/-! Spellings of a URI that differ in case, triplets, usual port or dots have one normal form. -/

namespace RelyingParty.Uri

/-- One rewriting of a text that leaves the URI the same. -/
inductive Respelled : Text → Text → Prop
  /-- The scheme in another case. -/
  | scheme {name name' rest : Text} (colon : ':' ∉ name)
    (same : Text.asciiLower name' = Text.asciiLower name) :
    Respelled (name ++ "://" ++ rest) (name' ++ "://" ++ rest)
  /-- The host in another case. -/
  | host {name host host' behind : Text} {userinfo : Option Text}
    (cut : HostCut name userinfo host behind)
    (same : Text.asciiLower host' = Text.asciiLower host) :
    Respelled (heading name userinfo ++ host ++ behind) (heading name userinfo ++ host' ++ behind)
  /-- An unreserved character as a triplet, where no other triplet is left open. -/
  | encoded {name front back : Text} {c high low : Char} (colon : ':' ∉ name)
    (outside : (canonicalEscapes? front).isSome = true) (unreserved : isUnreserved c = true)
    (code : tripletValue? high low = some c.toNat) :
    Respelled (name ++ "://" ++ (front ++ c :: back))
      (name ++ "://" ++ (front ++ '%' :: high :: low :: back))
  /-- The digits of a triplet in another case. -/
  | digits {name front back : Text} {high low high' low' : Char} (colon : ':' ∉ name)
    (same : high'.toLower = high.toLower) (same' : low'.toLower = low.toLower) :
    Respelled (name ++ "://" ++ (front ++ '%' :: high :: low :: back))
      (name ++ "://" ++ (front ++ '%' :: high' :: low' :: back))
  /-- The usual port of the scheme, behind an authority with all of its colons in brackets. -/
  | port {name authority behind : Text} {scheme : Scheme}
    (known : Scheme.ofText? name = some scheme)
    (within : ∀ c ∈ authority, endsAuthority c = false)
    (ends : ∀ c ∈ behind.head?, endsAuthority c = true)
    (bracketed : ∀ front back, authority = front ++ ':' :: back → '[' ∈ front ∧ ']' ∈ back) :
    Respelled (name ++ "://" ++ (authority ++ behind))
      (name ++ "://" ++ (authority ++ ':' :: Text.ofNat scheme.defaultPort ++ behind))
  /-- A slash for an empty path. -/
  | slash {name authority behind : Text} (colon : ':' ∉ name)
    (within : ∀ c ∈ authority, endsAuthority c = false)
    (bare : ∀ c ∈ behind.head?, c = '?' ∨ c = '#') :
    Respelled (name ++ "://" ++ (authority ++ behind))
      (name ++ "://" ++ (authority ++ '/' :: behind))
  /-- A dot between two slashes, for a slash that neither query nor fragment precedes. -/
  | dot {name front back : Text} (colon : ':' ∉ name) (query : '?' ∉ front)
    (fragment : '#' ∉ front) :
    Respelled (name ++ "://" ++ (front ++ '/' :: back)) (name ++ "://" ++ (front ++ "/./" ++ back))
  /-- A segment and the way back from it, for a slash that neither query nor fragment precedes. -/
  | detour {name front back segment canonical : Text} (colon : ':' ∉ name) (query : '?' ∉ front)
    (fragment : '#' ∉ front) (graphic : ∀ c ∈ segment, isGraphic c = true)
    (plain : ∀ c ∈ segment, endsAuthority c = false)
    (escapes : canonicalEscapes? segment = some canonical) (dots : isDotted canonical = false) :
    Respelled (name ++ "://" ++ (front ++ '/' :: back))
      (name ++ "://" ++ (front ++ '/' :: segment ++ "/../" ++ back))

/-- Texts that differ in case alone are printable together. -/
theorem isGraphic_of_asciiLower_eq {text text' : Text}
    (same : Text.asciiLower text' = Text.asciiLower text)
    (graphic : ∀ c ∈ text, isGraphic c = true) : ∀ c ∈ text', isGraphic c = true := by
  -- Each character has its counterpart in the other text, and printing does not see its case.
  intro c inside
  obtain ⟨d, member, equal⟩ := Text.exists_of_asciiLower_eq same inside
  rw [← Text.isGraphic_toLower, ← equal, Text.isGraphic_toLower]
  exact graphic d member

/-- The scheme is known by its name in any case. -/
theorem parse_scheme {name name' rest : Text} {uri : Uri} (colon : ':' ∉ name)
    (same : Text.asciiLower name' = Text.asciiLower name)
    (read : parse (name ++ "://" ++ rest) = .ok uri) :
    parse (name' ++ "://" ++ rest) = .ok uri := by
  -- No colon comes into the name by a change of case, so it is cut off at the same place.
  have colon' : ':' ∉ name' := by
    rw [← Text.mem_asciiLower_iff (by decide), same, Text.mem_asciiLower_iff (by decide)]
    exact colon
  obtain ⟨graphic, scheme, canonical, known, parts⟩ := (parse_append_eq_ok_iff colon).mp read
  simp only [List.forall_mem_append] at graphic
  obtain ⟨⟨first, slashes⟩, behind⟩ := graphic
  refine (parse_append_eq_ok_iff colon').mpr ⟨?_, scheme, canonical, ?_, parts⟩
  · simp only [List.forall_mem_append]
    exact ⟨⟨isGraphic_of_asciiLower_eq same first, slashes⟩, behind⟩
  · rwa [Scheme.ofText?, same]

/-- Only the lower case of a host is in the URI. -/
theorem assembled_of_asciiLower_eq {host host' : Text}
    (same : Text.asciiLower host' = Text.asciiLower host) (scheme : Scheme)
    (userinfo : Option Text) (port : Option Nat) (behind : Text) :
    assembled scheme userinfo host' port behind = assembled scheme userinfo host port behind := by
  simp only [assembled, same]

/-- A host is read in any case. -/
theorem parse_host {name host host' behind : Text} {userinfo : Option Text} {uri : Uri}
    (cut : HostCut name userinfo host behind)
    (same : Text.asciiLower host' = Text.asciiLower host)
    (read : parse (heading name userinfo ++ host ++ behind) = .ok uri) :
    parse (heading name userinfo ++ host' ++ behind) = .ok uri := by
  obtain ⟨graphic, parts⟩ := cut.parse_eq_ok_iff.mp read
  -- Printing characters are the same in any case.
  simp only [List.forall_mem_append] at graphic
  obtain ⟨⟨first, middle⟩, last⟩ := graphic
  refine (cut.of_asciiLower_eq same).parse_eq_ok_iff.mpr ⟨?_, ?_⟩
  · simp only [List.forall_mem_append]
    exact ⟨⟨first, isGraphic_of_asciiLower_eq same middle⟩, last⟩
  obtain @⟨scheme, userinfo', canonical, _, written, port, known, info, part, back, found,
    nonempty⟩ := parts
  -- Both canonical forms are the same in lower case, and so are the hosts found in them.
  have lower := canonicalEscapes?_asciiLower host'
  rw [same, canonicalEscapes?_asciiLower, part, Option.map_some] at lower
  obtain ⟨canonical', part', lower'⟩ := Option.map_eq_some_iff.mp lower.symm
  have cased := hostPort?_asciiLower canonical'
  rw [lower', hostPort?_asciiLower, found, Option.map_some] at cased
  obtain ⟨⟨written', port'⟩, found', equal⟩ := Option.map_eq_some_iff.mp cased.symm
  obtain ⟨equal, rfl⟩ := Prod.mk.inj equal
  have nonempty' : written' ≠ [] := by
    rintro rfl
    exact nonempty (List.map_eq_nil_iff.mp equal.symm)
  rw [← assembled_of_asciiLower_eq equal]
  exact .parts known info part' back found' nonempty'

/-- A triplet of an unreserved character is that character. -/
theorem canonicalTriplet?_of_code {c high low : Char} (unreserved : isUnreserved c = true)
    (code : tripletValue? high low = some c.toNat) : canonicalTriplet? high low = some [c] := by
  rw [canonicalTriplet?, code, Option.map_some, Char.ofNat_toNat, if_pos unreserved]

/-- The digits of a triplet are printable. -/
theorem isGraphic_of_tripletValue? {high low : Char} {value : Nat}
    (read : tripletValue? high low = some value) :
    isGraphic high = true ∧ isGraphic low = true := by
  -- The first digit is the sign or a digit of base sixteen, and both are printable.
  obtain ⟨first, units, last⟩ := digits_of_tripletValue? read
  refine ⟨?_, isGraphic_of_isUnreserved (isUnreserved_of_digitValue? last).1⟩
  rcases first with rfl | ⟨sixteens, digit⟩
  · rfl
  · exact isGraphic_of_isUnreserved (isUnreserved_of_digitValue? digit).1

/-- Texts with the same canonical form are read alike behind a scheme. -/
theorem parse_of_canonical_eq {name rest rest' : Text} {uri : Uri} (colon : ':' ∉ name)
    (graphic : (∀ c ∈ rest, isGraphic c = true) → ∀ c ∈ rest', isGraphic c = true)
    (same : ∀ canonical, canonicalEscapes? rest = some canonical →
      canonicalEscapes? rest' = some canonical)
    (read : parse (name ++ "://" ++ rest) = .ok uri) :
    parse (name ++ "://" ++ rest') = .ok uri := by
  -- What is read behind the scheme is the canonical form alone, once all is printable.
  obtain ⟨printable, scheme, canonical, known, escapes, parts⟩ :=
    (parse_append_eq_ok_iff colon).mp read
  rw [List.forall_mem_append] at printable
  refine (parse_append_eq_ok_iff colon).mpr
    ⟨?_, scheme, canonical, known, same canonical escapes, parts⟩
  exact List.forall_mem_append.mpr ⟨printable.1, graphic printable.2⟩

/-- An unreserved character is read from its triplet. -/
theorem parse_encoded {name front back : Text} {c high low : Char} {uri : Uri} (colon : ':' ∉ name)
    (outside : (canonicalEscapes? front).isSome = true) (unreserved : isUnreserved c = true)
    (code : tripletValue? high low = some c.toNat)
    (read : parse (name ++ "://" ++ (front ++ c :: back)) = .ok uri) :
    parse (name ++ "://" ++ (front ++ '%' :: high :: low :: back)) = .ok uri := by
  obtain ⟨before, whole⟩ := Option.isSome_iff_exists.mp outside
  obtain ⟨first, last⟩ := isGraphic_of_tripletValue? code
  refine parse_of_canonical_eq colon ?_ ?_ read
  · intro graphic
    simp only [List.forall_mem_append, List.forall_mem_cons] at graphic ⊢
    exact ⟨graphic.1, rfl, first, last, graphic.2.2⟩
  · intro canonical escapes
    -- A percent sign is not unreserved, so the character stands for itself.
    have plain : c ≠ '%' := by
      rintro rfl
      cases unreserved
    rw [canonicalEscapes?_append whole, canonicalEscapes?_cons plain] at escapes
    rw [canonicalEscapes?_append whole, ← escapes]
    -- Either way the character stands in front of what is read behind it.
    simp only [canonicalEscapes?, canonicalTriplet?_of_code unreserved code]
    cases canonicalEscapes? back with
    | none => rfl
    | some after => rfl

/-- A percent sign is in no triplet. -/
theorem canonicalTriplet?_percent (c : Char) :
    canonicalTriplet? '%' c = none ∧ canonicalTriplet? c '%' = none := by
  -- The sign is no digit, wherever it stands in a triplet.
  constructor
  · simp only [canonicalTriplet?, tripletValue?]
    cases Text.digitValue? 16 c <;> rfl
  · rfl

/-- What stands in front of a triplet is read on its own. -/
theorem exists_of_canonicalEscapes?_percent {front back canonical : Text}
    (read : canonicalEscapes? (front ++ '%' :: back) = some canonical) :
    ∃ before, canonicalEscapes? front = some before := by
  fun_induction canonicalEscapes? front generalizing canonical with
  | case1 => exact ⟨[], rfl⟩
  | case2 high low rest ih =>
    -- A triplet inside the front is the same in front of more text.
    simp only [List.cons_append, canonicalEscapes?, Option.bind_eq_bind, Option.bind_eq_some_iff]
      at read
    obtain ⟨triplet, part, tail, parts, _⟩ := read
    obtain ⟨before, whole⟩ := ih parts
    exact ⟨triplet ++ before, by simp [part, whole]⟩
  | case3 rest short =>
    -- A percent sign too near to the next one begins no triplet.
    cases rest with
    | nil =>
      cases back with
      | nil => cases read
      | cons low back => simp [canonicalEscapes?, (canonicalTriplet?_percent low).1] at read
    | cons high rest =>
      cases rest with
      | nil => simp [canonicalEscapes?, (canonicalTriplet?_percent high).2] at read
      | cons low rest => exact absurd rfl (short high low rest rfl)
  | case4 c rest _ plain ih =>
    rw [List.cons_append, canonicalEscapes?_cons plain] at read
    obtain ⟨tail, parts, _⟩ := Option.map_eq_some_iff.mp read
    obtain ⟨before, whole⟩ := ih parts
    exact ⟨c :: before, by rw [whole]; rfl⟩

/-- A triplet is read whatever the case of its digits. -/
theorem parse_digits {name front back : Text} {high low high' low' : Char} {uri : Uri}
    (colon : ':' ∉ name) (same : high'.toLower = high.toLower) (same' : low'.toLower = low.toLower)
    (read : parse (name ++ "://" ++ (front ++ '%' :: high :: low :: back)) = .ok uri) :
    parse (name ++ "://" ++ (front ++ '%' :: high' :: low' :: back)) = .ok uri := by
  -- Printing and the canonical triplet both pass over the case of the digits.
  refine parse_of_canonical_eq colon ?_ ?_ read
  · intro graphic
    simp only [List.forall_mem_append, List.forall_mem_cons] at graphic ⊢
    obtain ⟨before, percent, first, last, after⟩ := graphic
    refine ⟨before, percent, ?_, ?_, after⟩
    · rwa [← Text.isGraphic_toLower, same, Text.isGraphic_toLower]
    · rwa [← Text.isGraphic_toLower, same', Text.isGraphic_toLower]
  · -- What stands in front is read on its own, so only the two triplets are to be compared.
    intro canonical escapes
    obtain ⟨before, whole⟩ := exists_of_canonicalEscapes?_percent escapes
    have triplet : canonicalTriplet? high' low' = canonicalTriplet? high low := by
      rw [← canonicalTriplet?_toLower, same, same', canonicalTriplet?_toLower]
    rw [canonicalEscapes?_append whole] at escapes ⊢
    simpa only [canonicalEscapes?, triplet] using escapes

/-- No port is found when every colon has a closing bracket behind it. -/
theorem hostPort?_of_closed {host canonical written : Text} {port : Option Nat}
    (closed : ∀ front back, host = front ++ ':' :: back → ']' ∈ back)
    (part : canonicalEscapes? host = some canonical)
    (found : hostPort? canonical = some (written, port)) :
    splitPort? canonical = some (canonical, none) ∧ written = canonical ∧ port = none := by
  obtain ⟨portText, cut, valid⟩ := hostPort?_eq_some_iff.mp found
  obtain ⟨whole, _⟩ := splitPort?_eq_some_iff.mp cut
  -- A canonical host with no port cut off it is the whole, and what remains is to exclude one.
  cases portText with
  | none =>
    cases valid
    have same : canonical = written := by simpa [Text.marked] using whole
    exact ⟨same ▸ cut, same.symm, rfl⟩
  | some digits =>
    -- The port would begin at the last colon, and the bracket behind that one is no digit.
    have colon : ':' ∈ canonical := by simp [whole, Text.marked]
    cases split : Text.splitLast ':' host with
    | none =>
      have absent := Text.splitLast_eq_none_iff.mp split
      exact absurd colon (not_mem_of_canonicalEscapes? rfl part absent)
    | some parts =>
      obtain ⟨front, back⟩ := parts
      obtain ⟨rfl, last⟩ := Text.splitLast_eq_some_iff.mp split
      rw [canonicalEscapes?_append_mark rfl] at part
      obtain ⟨front', _, tail⟩ := Option.bind_eq_some_iff.mp part
      obtain ⟨back', read, same⟩ := Option.map_eq_some_iff.mp tail
      have last' := not_mem_of_canonicalEscapes? rfl read last
      have cut' := Text.splitLast_append last' front'
      rw [same, whole, Text.marked, Text.splitLast_append (not_mem_of_portNumber? valid).1] at cut'
      cases cut'
      have bracket := mem_of_canonicalEscapes? rfl read (closed front back rfl)
      exact absurd bracket (not_mem_of_portNumber? valid).2

/-- The usual port is none in a URI. -/
theorem assembled_defaultPort (scheme : Scheme) (userinfo : Option Text) (host behind : Text) :
    assembled scheme userinfo host (some scheme.defaultPort) behind =
      assembled scheme userinfo host none behind := by
  simp [assembled, Option.filter]

/-- The usual port of the scheme makes no difference when it is written. -/
theorem parse_port {name authority behind : Text} {scheme : Scheme} {uri : Uri}
    (known : Scheme.ofText? name = some scheme)
    (within : ∀ c ∈ authority, endsAuthority c = false)
    (ends : ∀ c ∈ behind.head?, endsAuthority c = true)
    (closed : ∀ front back, authority = front ++ ':' :: back → ']' ∈ back)
    (read : parse (name ++ "://" ++ (authority ++ behind)) = .ok uri) :
    parse (name ++ "://" ++ (authority ++ ':' :: Text.ofNat scheme.defaultPort ++ behind)) =
      .ok uri := by
  have colon := Scheme.colon_not_mem_of_ofText? known
  obtain ⟨userinfo, host, rfl, cut⟩ := exists_hostCut colon within ends
  let port := ':' :: Text.ofNat scheme.defaultPort
  have plain : ∀ c ∈ port, endsAuthority c = false ∧ c ≠ '@' ∧ c ≠ '%' ∧ isGraphic c = true ∧
      c.toLower = c := fun c inside => @plain_of_mem_marked (some scheme.defaultPort) c inside
  have cut' : HostCut name userinfo (host ++ port) behind :=
    cut.append_port (some scheme.defaultPort)
  rw [← heading_append] at read
  obtain ⟨graphic, parts⟩ := cut.parse_eq_ok_iff.mp read
  rw [List.append_assoc (signed userinfo), ← heading_append, cut'.parse_eq_ok_iff]
  constructor
  · simp only [List.forall_mem_append] at graphic ⊢
    exact ⟨⟨graphic.1.1, graphic.1.2, fun c inside => (plain c inside).2.2.2.1⟩, graphic.2⟩
  obtain ⟨known', info, part, back, found, nonempty⟩ := parts
  rw [known] at known'
  cases known'
  -- The host part has no port so far, and the usual one is none in the URI either.
  have closed' : ∀ front back, host = front ++ ':' :: back → ']' ∈ back := fun front back same =>
    closed (signed userinfo ++ front) back (by rw [same, List.append_assoc])
  obtain ⟨alone, rfl, rfl⟩ := hostPort?_of_closed closed' part found
  -- The usual port is a port number, and no part of it is escaped.
  have small : scheme.defaultPort < 65536 := by
    cases scheme with
    | http => decide
    | https => decide
  have absent : '%' ∉ port := fun inside => (plain _ inside).2.2.1 rfl
  have part' := canonicalEscapes?_append part port
  rw [canonicalEscapes?_of_no_percent absent] at part'
  rw [← assembled_defaultPort]
  exact .parts known info part' back (hostPort?_append_port alone small) nonempty

/-- Parts behind an authority that make the same URI are read alike. -/
theorem HostCut.parse_behind {name host behind behind' : Text} {userinfo : Option Text} {uri : Uri}
    (cut : HostCut name userinfo host behind)
    (ends : ∀ c ∈ behind'.head?, endsAuthority c = true)
    (graphic : (∀ c ∈ behind, isGraphic c = true) → ∀ c ∈ behind', isGraphic c = true)
    (same : ∀ canonical, canonicalEscapes? behind = some canonical →
      ∃ canonical', canonicalEscapes? behind' = some canonical' ∧
        ∀ scheme userinfo host port, assembled scheme userinfo host port canonical' =
          assembled scheme userinfo host port canonical)
    (read : parse (name ++ "://" ++ (signed userinfo ++ host ++ behind)) = .ok uri) :
    parse (name ++ "://" ++ (signed userinfo ++ host ++ behind')) = .ok uri := by
  -- The cut is the same with the other text behind it, so the host is found again.
  rw [← heading_append] at read ⊢
  obtain ⟨printable, parts⟩ := cut.parse_eq_ok_iff.mp read
  rw [List.forall_mem_append] at printable
  have cut' : HostCut name userinfo host behind' :=
    ⟨cut.colon, cut.info, cut.within, cut.sign, ends⟩
  refine cut'.parse_eq_ok_iff.mpr ⟨?_, ?_⟩
  · exact List.forall_mem_append.mpr ⟨printable.1, graphic printable.2⟩
  · obtain ⟨known, info, part, back, found, nonempty⟩ := parts
    obtain ⟨_, back', equal⟩ := same _ back
    rw [← equal]
    exact .parts known info part back' found nonempty

/-- A slash is read for an empty path. -/
theorem parse_slash {name authority behind : Text} {uri : Uri} (colon : ':' ∉ name)
    (within : ∀ c ∈ authority, endsAuthority c = false)
    (bare : ∀ c ∈ behind.head?, c = '?' ∨ c = '#')
    (read : parse (name ++ "://" ++ (authority ++ behind)) = .ok uri) :
    parse (name ++ "://" ++ (authority ++ '/' :: behind)) = .ok uri := by
  -- The authority ends where it did, and just the tail behind it has another text.
  have ends : ∀ c ∈ behind.head?, endsAuthority c = true := by
    intro c first
    rcases bare c first with rfl | rfl
    · rfl
    · rfl
  obtain ⟨userinfo, host, rfl, cut⟩ := exists_hostCut colon within ends
  refine cut.parse_behind (by simp [endsAuthority]) ?_ ?_ read
  · exact fun graphic => List.forall_mem_cons.mpr ⟨rfl, graphic⟩
  · intro canonical escapes
    refine ⟨'/' :: canonical, ?_, fun scheme userinfo host port => ?_⟩
    · rw [canonicalEscapes?_cons (by decide), escapes]
      rfl
    · -- Nothing is in front of the query and the fragment, or the slash alone.
      have first := head?_of_canonicalEscapes? cut.isMark_of_head? escapes
      rw [← first] at ends bare
      obtain ⟨path, query, fragment, rfl, tailCut⟩ := exists_tailCut ends
      cases path with
      | cons c path =>
        have slash : c = '/' := tailCut.starts c rfl
        subst slash
        exact absurd (bare '/' rfl) (by decide)
      | nil =>
        have sign : '#' ∉ ['/'] ++ Text.marked '?' query := by simpa using tailCut.sign
        have slashCut : TailCut ['/'] query fragment := ⟨by simp, by decide, sign⟩
        have whole : '/' :: tail [] query fragment = tail ['/'] query fragment := rfl
        have path : normalPath ['/'] = normalPath [] := by decide +kernel
        rw [whole, slashCut.assembled_eq, tailCut.assembled_eq, path]

/-- Segments that leave every stack as it is make no difference in front of a slash of the path. -/
theorem assembled_inserted {front : Text} {added : List Text}
    (starts : ∀ c ∈ front.head?, c = '/') (query : '?' ∉ front) (fragment : '#' ∉ front)
    (query' : '?' ∉ slashed added) (fragment' : '#' ∉ slashed added)
    (absent : ∀ segment ∈ added, '/' ∉ segment) (same : ∀ stack, added.foldl push stack = stack)
    (back : Text) (scheme : Scheme) (userinfo : Option Text) (host : Text) (port : Option Nat) :
    assembled scheme userinfo host port (front ++ slashed added ++ '/' :: back) =
      assembled scheme userinfo host port (front ++ '/' :: back) := by
  -- Both paths are lists of segments, and one has the added ones in the middle.
  obtain ⟨segments, rfl, absent'⟩ := exists_slashed_of_head starts
  obtain ⟨rest, query₀, fragment₀, cuts⟩ := exists_tailCut_slash back
  obtain ⟨whole, cut⟩ := cuts (slashed segments) starts query fragment
  obtain ⟨whole', cut'⟩ := cuts (slashed (segments ++ added)) head?_slashed
    (slashed_append segments added ▸ List.not_mem_append query query')
    (slashed_append segments added ▸ List.not_mem_append fragment fragment')
  rw [← slashed_append, whole, whole', cut.assembled_eq, cut'.assembled_eq, normalPath, normalPath,
    removeDotSegments_inserted _ same]
  exact List.forall_mem_append.mpr ⟨absent', absent⟩

/-- Segments that leave every stack as it is are read over in front of a slash of the path. -/
theorem parse_inserted {name front back : Text} {added canonical : List Text} {uri : Uri}
    (colon : ':' ∉ name) (query : '?' ∉ front) (fragment : '#' ∉ front)
    (graphic : ∀ c ∈ slashed added, isGraphic c = true) (query' : '?' ∉ slashed added)
    (fragment' : '#' ∉ slashed added)
    (escapes : canonicalEscapes? (slashed added) = some (slashed canonical))
    (absent : ∀ segment ∈ canonical, '/' ∉ segment)
    (same : ∀ stack, canonical.foldl push stack = stack)
    (read : parse (name ++ "://" ++ (front ++ '/' :: back)) = .ok uri) :
    parse (name ++ "://" ++ (front ++ slashed added ++ '/' :: back)) = .ok uri := by
  -- The path begins at the first slash, which is the given one or stands in front of it.
  obtain ⟨authority, segments, rfl, slash, _⟩ := exists_slashed front
  simp only [List.mem_append, not_or] at query fragment
  have within := within_of_not_mem slash query.1 fragment.1
  have ends : ∀ segments : List Text,
      ∀ c ∈ (slashed segments ++ '/' :: back).head?, endsAuthority c = true := by
    intro segments c first
    rw [head?_slashed_append] at first
    cases first
    rfl
  obtain ⟨userinfo, host, rfl, cut⟩ := exists_hostCut colon within (ends segments)
  -- The new segments belong to the path, whose host part stays as it is.
  have whole : signed userinfo ++ host ++ slashed segments ++ slashed added ++ '/' :: back =
      signed userinfo ++ host ++ (slashed (segments ++ added) ++ '/' :: back) := by
    simp [slashed_append]
  rw [whole]
  rw [List.append_assoc (signed userinfo ++ host)] at read
  refine cut.parse_behind (ends (segments ++ added)) ?_ ?_ read
  · simp only [slashed_append, List.forall_mem_append] at graphic ⊢
    exact fun printable => ⟨⟨printable.1, graphic⟩, printable.2⟩
  intro whole' read'
  -- The canonical path has the canonical segments at the same place.
  rw [canonicalEscapes?_append_mark rfl] at read'
  obtain ⟨before, first, rest⟩ := Option.bind_eq_some_iff.mp read'
  obtain ⟨after, last, rfl⟩ := Option.map_eq_some_iff.mp rest
  have starts : ∀ c ∈ before.head?, c = '/' := by
    rw [head?_of_canonicalEscapes? isMark_of_head?_slashed first]
    exact head?_slashed
  refine ⟨before ++ slashed canonical ++ '/' :: after, ?_, fun scheme userinfo host port => ?_⟩
  · rw [slashed_append, canonicalEscapes?_append_mark rfl, canonicalEscapes?_append first, escapes,
      last]
    rfl
  · exact assembled_inserted starts (not_mem_of_canonicalEscapes? rfl first query.2)
      (not_mem_of_canonicalEscapes? rfl first fragment.2)
      (not_mem_of_canonicalEscapes? rfl escapes query')
      (not_mem_of_canonicalEscapes? rfl escapes fragment') absent same after scheme userinfo host
      port

/-- A dot between two slashes is read over. -/
theorem parse_dot {name front back : Text} {uri : Uri} (colon : ':' ∉ name) (query : '?' ∉ front)
    (fragment : '#' ∉ front) (read : parse (name ++ "://" ++ (front ++ '/' :: back)) = .ok uri) :
    parse (name ++ "://" ++ (front ++ "/./" ++ back)) = .ok uri := by
  have whole : front ++ "/./" ++ back = front ++ slashed [['.']] ++ '/' :: back := by
    simp [slashed]
  have escapes : canonicalEscapes? (slashed [['.']]) = some (slashed [['.']]) := by decide
  have graphic : (slashed [['.']]).all isGraphic = true := by decide
  -- A segment of one dot leaves the kept ones as they are.
  rw [whole]
  exact parse_inserted colon query fragment (List.all_eq_true.mp graphic) (by decide) (by decide)
    escapes (by simp) (fun stack => rfl) read

/-- A segment and the way back from it are read over. -/
theorem parse_detour {name front back segment canonical : Text} {uri : Uri} (colon : ':' ∉ name)
    (query : '?' ∉ front) (fragment : '#' ∉ front) (graphic : ∀ c ∈ segment, isGraphic c = true)
    (plain : ∀ c ∈ segment, endsAuthority c = false)
    (escapes : canonicalEscapes? segment = some canonical) (dots : isDotted canonical = false)
    (read : parse (name ++ "://" ++ (front ++ '/' :: back)) = .ok uri) :
    parse (name ++ "://" ++ (front ++ '/' :: segment ++ "/../" ++ back)) = .ok uri := by
  -- The detour is two segments more in the path.
  have whole : front ++ '/' :: segment ++ "/../" ++ back =
      front ++ slashed [segment, ['.', '.']] ++ '/' :: back := by
    simp [slashed]
  have slashes : ∀ segment, slashed [segment, ['.', '.']] = '/' :: (segment ++ "/..") := by
    simp [slashed]
  have escapes' : canonicalEscapes? (slashed [segment, ['.', '.']]) =
      some (slashed [canonical, ['.', '.']]) := by
    have ends : canonicalEscapes? "/.." = some "/..".toList := by decide
    rw [slashes, slashes, canonicalEscapes?_cons (by decide), canonicalEscapes?_append escapes,
      ends]
    rfl
  have within := canonicalEscapes?_within escapes plain
  have dotted : ("/..".toList).all isGraphic = true := by decide
  rw [whole]
  -- The inserted text has no mark, and the way back drops just the segment in front of it.
  refine parse_inserted colon query fragment ?_ ?_ ?_ escapes' ?_ ?_ read
  · rw [slashes, List.forall_mem_cons, List.forall_mem_append]
    exact ⟨rfl, graphic, List.all_eq_true.mp dotted⟩
  · simpa [slashed] using not_mem_of_within plain rfl
  · simpa [slashed] using not_mem_of_within plain rfl
  · simpa using not_mem_of_within within rfl
  · intro stack
    rw [List.foldl_cons, push_of_not_dotted dots]
    rfl

/-- A rewriting leaves the URI that is read the same. -/
theorem parse_respelled {text text' : Text} {uri : Uri} (respelled : Respelled text text')
    (read : parse text = .ok uri) : parse text' = .ok uri := by
  -- Each rewriting has been dealt with on its own.
  cases respelled with
  | scheme colon same => exact parse_scheme colon same read
  | host cut same => exact parse_host cut same read
  | encoded colon outside unreserved code =>
    exact parse_encoded colon outside unreserved code read
  | digits colon same same' => exact parse_digits colon same same' read
  | port known within ends bracketed =>
    exact parse_port known within ends (fun front back same => (bracketed front back same).2) read
  | slash colon within bare => exact parse_slash colon within bare read
  | dot colon query fragment => exact parse_dot colon query fragment read
  | detour colon query fragment graphic plain escapes dots =>
    exact parse_detour colon query fragment graphic plain escapes dots read

/-- A text normalizes exactly when it is read, to the written form of its URI. -/
theorem normalize_eq_ok_iff {text form : Text} :
    normalize text = .ok form ↔ ∃ uri, parse text = .ok uri ∧ uri.render = form := by
  unfold normalize
  cases parse text with
  | error fault => simp [Except.map]
  | ok uri => simp [Except.map]

/-- A rewriting of a text that normalizes leaves its normal form the same. -/
theorem normalize_respelled {text text' form : Text} (respelled : Respelled text text')
    (normal : normalize text = .ok form) : normalize text' = .ok form := by
  -- Both texts are read as the same URI.
  obtain ⟨uri, read, written⟩ := normalize_eq_ok_iff.mp normal
  exact normalize_eq_ok_iff.mpr ⟨uri, parse_respelled respelled read, written⟩

/-- A host in brackets gets the usual port, and a letter of the path becomes a triplet. -/
theorem normalize_respelled_port :
    normalize "http://[::1]/a" = .ok "http://[::1]/a" ∧
      normalize "http://[::1]:80/a" = .ok "http://[::1]/a" ∧
      normalize "http://[::1]/%61" = .ok "http://[::1]/a" := by
  have normal : normalize "http://[::1]/a" = .ok "http://[::1]/a" := by decide +kernel
  have port : Respelled "http://[::1]/a" "http://[::1]:80/a" := by
    refine @Respelled.port "http" "[::1]" "/a" .http (by decide) (by simp [endsAuthority])
      (by simp [endsAuthority]) ?_
    intro front back same
    have text : "[::1]".toList = ['[', ':', ':', '1', ']'] := rfl
    rw [text] at same
    -- One of the two colons stands behind the front.
    simp only [List.cons_eq_append_iff, List.nil_eq_append_iff, List.cons.injEq, Char.reduceEq,
      reduceCtorEq, false_and, and_false, true_and, exists_const, or_false, false_or] at same
    rcases same with ⟨_, rfl, ⟨rfl, rfl⟩ | ⟨_, rfl, rfl, rfl⟩⟩
    · simp
    · simp
  have encoded : Respelled "http://[::1]/a" "http://[::1]/%61" :=
    @Respelled.encoded "http" "[::1]/" "" 'a' '6' '1' (by decide) (by decide) (by decide)
      (by decide)
  -- Either rewriting is applied to the text that is normal already.
  exact ⟨normal, normalize_respelled port normal, normalize_respelled encoded normal⟩

end RelyingParty.Uri
