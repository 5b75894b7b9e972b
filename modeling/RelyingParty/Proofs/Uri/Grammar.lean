import RelyingParty.Proofs.Uri.Parse
import RelyingParty.Proofs.Uri.Port
import RelyingParty.Proofs.Uri.Triplet

/-! The texts that normalize are those of a grammar, with plus signs where it has digits. -/

namespace RelyingParty.Uri

open Text (marked)

/-- The unreserved character that two hexadecimal digits stand for. -/
def unreservedOf? (high low : Char) : Option Char := do
  let sixteens ← Text.digitValue? 16 high
  let units ← Text.digitValue? 16 low
  let c := Char.ofNat (sixteens * 16 + units)
  if isUnreserved c then some c else none

/-- A text with the triplets of unreserved characters decoded, and all else as it is written. -/
def decodeUnreserved : Text → Text
  | [] => []
  | '%' :: high :: low :: rest =>
    match unreservedOf? high low with
    | some c => c :: decodeUnreserved rest
    -- What is behind the triplet is not read together with it.
    | none => '%' :: high :: low :: decodeUnreserved rest
  | c :: rest => c :: decodeUnreserved rest

/-- The host part of what follows a scheme and its slashes: the authority, which ends at the first
slash, question mark or number sign, without what stands in front of its last at sign. -/
def hostPart (text : Text) : Text := (splitUserinfo (text.takeWhile (!endsAuthority ·))).2

/-- Whether a host part is a host with a port behind a colon, or without any. The colon is the last
one, and behind an opening bracket it is the first one behind the closing bracket. -/
def SplitsPort (part host : Text) (port : Option Text) : Prop :=
  part = host ++ marked ':' port ∧
    -- Colons inside the brackets are those of an address.
    if part.head? = some '[' then IsBracketed host else ':' ∉ port.getD host

/-- Whether two characters are hexadecimal digits; the first one may be a plus sign when `signs`. -/
def IsHexPair (signs : Bool) (high low : Char) : Prop :=
  ((Text.digitValue? 16 high).isSome = true ∨ signs = true ∧ high = '+') ∧
    (Text.digitValue? 16 low).isSome = true

/-- Whether a text consists of decimal digits, of a number that has sixteen bits. -/
def IsPortNumber (text : Text) : Prop :=
  text ≠ [] ∧ (∀ c ∈ text, c.isDigit = true) ∧ Nat.ofDigitChars 10 text 0 ≤ 65535

/-- Whether a text is empty or the number of a port; a plus sign may stand in front of the number
when `signs`. -/
def IsPort (signs : Bool) (text : Text) : Prop :=
  text = [] ∨ IsPortNumber text ∨
    signs = true ∧ ∃ digits, text = '+' :: digits ∧ IsPortNumber digits

/-- The grammar of HTTP URIs; when `signs`, plus signs may stand where it has digits. -/
inductive IsHttpUri (signs : Bool) : Text → Prop
  | spelled {name rest host : Text} {port : Option Text}
    (graphic : ∀ c ∈ name ++ "://" ++ rest, isGraphic c = true)
    (scheme : Text.asciiLower name = "http" ∨ Text.asciiLower name = "https")
    (triplets : EachTriplet (IsHexPair signs) rest)
    (parts : SplitsPort (hostPart (decodeUnreserved rest)) host port) (nonempty : host ≠ [])
    (digits : ∀ digits ∈ port, IsPort signs digits) : IsHttpUri signs (name ++ "://" ++ rest)

/-- Whether a plus sign stands where the grammar has a digit: behind a percent sign, or in front of
a port. -/
inductive HasSign : Text → Prop
  | triplet {text : Text} (inside : ['%', '+'] <:+: text) : HasSign text
  -- The sign of a port stands directly behind its colon.
  | port {name rest host port : Text} (colon : ':' ∉ name)
    (parts : SplitsPort (hostPart (decodeUnreserved rest)) host (some ('+' :: port))) :
    HasSign (name ++ "://" ++ rest)

/-- Two characters are read as a triplet when they are digits, or a plus sign and a digit. -/
theorem isSome_tripletValue?_iff {high low : Char} :
    (tripletValue? high low).isSome = true ↔ IsHexPair true high low := by
  simp only [tripletValue?, IsHexPair]
  -- Without a second digit neither side holds, and with one both go by the first character.
  cases Text.digitValue? 16 low with
  | none => simp
  | some units =>
    by_cases plus : high = '+'
    · simp [plus]
    · simp [plus]

/-- A run of digits is read when its number is one of a port. -/
theorem isSome_digits?_iff {text : Text} :
    ((Text.digits? 10 text).filter (· < 65536)).isSome = true ↔ IsPortNumber text := by
  constructor
  · intro read
    obtain ⟨n, found⟩ := Option.isSome_iff_exists.mp read
    -- The filter on the number is the bound of sixteen bits.
    obtain ⟨number, small⟩ := Option.filter_eq_some_iff.mp found
    obtain ⟨nonempty, digits, rfl⟩ := Text.digits?_eq_some_iff.mp number
    exact ⟨nonempty, digits, Nat.le_of_lt_succ (of_decide_eq_true small)⟩
  · rintro ⟨nonempty, digits, small⟩
    rw [Text.digits?_eq_some_iff.mpr ⟨nonempty, digits, rfl⟩]
    simp only [Option.filter_some, Nat.lt_succ_of_le small, decide_true, if_true,
      Option.isSome_some]

/-- A port is read when there is none, or it is empty, or it is a number with at most one plus sign
in front. -/
theorem isSome_portNumber?_iff {port : Option Text} :
    (portNumber? port).isSome = true ↔ ∀ text ∈ port, IsPort true text := by
  match port with
  | none => simp [portNumber?]
  | some [] => simp [portNumber?, IsPort]
  | some (c :: rest) =>
    have whole : (portNumber? (some (c :: rest))).isSome =
        (Text.natBelow? 65536 (c :: rest)).isSome := Option.isSome_map
    have only : (∀ text ∈ some (c :: rest), IsPort true text) ↔ IsPort true (c :: rest) := by simp
    rw [whole, only]
    by_cases plus : c = '+'
    · -- The sign is no digit, so the number is what follows it.
      subst plus
      have sign : ¬IsPortNumber ('+' :: rest) := fun number =>
        absurd (number.2.1 '+' (.head _)) (by decide)
      exact isSome_digits?_iff.trans (by simp [IsPort, sign])
    · -- The text is the number itself.
      have other : (c :: rest).head? ≠ some '+' := by simp [plus]
      rw [Text.natBelow?_of_no_plus other, isSome_digits?_iff]
      simp [IsPort, plus]

/-- The host part of a cut text is the one of the cut. -/
theorem HostCut.hostPart_eq {name host behind : Text} {userinfo : Option Text}
    (cut : HostCut name userinfo host behind) :
    hostPart (signed userinfo ++ host ++ behind) = host := by
  -- The authority is cut off behind, and the user information in front.
  obtain ⟨authority, _⟩ := takeWhile_authority cut.authority_within cut.ends
  have parts : splitUserinfo (signed userinfo ++ host) = (userinfo, host) :=
    splitUserinfo_eq_iff.mpr ⟨rfl, cut.sign⟩
  rw [hostPart, authority, parts]

/-- Every text is cut around its host part. -/
theorem exists_cut_hostPart {name : Text} (colon : ':' ∉ name) (text : Text) :
    ∃ userinfo behind, text = signed userinfo ++ hostPart text ++ behind ∧
      HostCut name userinfo (hostPart text) behind := by
  obtain ⟨within, ends⟩ := authority_of_takeWhile text
  obtain ⟨userinfo, host, authority, cut⟩ := exists_hostCut colon within ends
  -- The cut is made of the text itself, so its host is the host part by the lemma above.
  have whole : text = signed userinfo ++ host ++ text.dropWhile (!endsAuthority ·) := by
    rw [← authority, List.takeWhile_append_dropWhile]
  have part : hostPart text = host := by
    rw [whole]
    exact cut.hostPart_eq
  exact ⟨userinfo, _, by rw [part]; exact whole, by rw [part]; exact cut⟩

/-- What follows a scheme is read exactly when a host is found in its host part. -/
theorem ofHierarchy_isOk_iff {scheme : Scheme} {text : Text} :
    (∃ uri, ofHierarchy scheme text = .ok uri) ↔
      ∃ host port, hostPort? (hostPart text) = some (host, port) ∧ host ≠ [] := by
  have colon := Scheme.colon_not_mem_of_ofText? (Scheme.ofText?_text scheme)
  obtain ⟨userinfo, behind, whole, cut⟩ := exists_cut_hostPart colon text
  have read := cut.ofHierarchy_eq scheme
  rw [← whole] at read
  rw [read]
  -- What stands behind the host part is always read, so the host alone decides.
  cases hostPort? (hostPart text) with
  | none => simp
  | some parts =>
    obtain ⟨host, port⟩ := parts
    by_cases empty : host = []
    · simp [empty]
    · simp [empty]

/-- The host part of a text in lower case is the one of the text. -/
theorem hostPart_asciiLower (text : Text) :
    hostPart (Text.asciiLower text) = Text.asciiLower (hostPart text) := by
  -- Neither the end of the authority nor the at sign has a case.
  have authority : (Text.asciiLower text).takeWhile (!endsAuthority ·) =
      Text.asciiLower (text.takeWhile (!endsAuthority ·)) := by
    simp only [Text.asciiLower, List.takeWhile_map, Function.comp_def, endsAuthority_toLower]
  rw [hostPart, hostPart, authority, splitUserinfo, splitUserinfo,
    Text.splitLast_asciiLower (by decide)]
  cases Text.splitLast '@' (text.takeWhile (!endsAuthority ·)) with
  | none => rfl
  | some parts => rfl

/-- A triplet that is read is decoded to the unreserved character that its canonical form is, or it
is left, and differs from its canonical form in case alone. -/
theorem unreservedOf?_of_canonicalTriplet? {high low : Char} {triplet : Text}
    (read : canonicalTriplet? high low = some triplet) :
    (∃ c, unreservedOf? high low = some c ∧ triplet = [c]) ∨
      unreservedOf? high low = none ∧ triplet = ['%', high.toUpper, low.toUpper] := by
  obtain ⟨value, number, rfl⟩ := Option.map_eq_some_iff.mp read
  obtain ⟨first, units, last⟩ := digits_of_tripletValue? number
  by_cases plus : high = '+'
  · -- Behind a plus sign stands a number of one digit, and no character below it is unreserved.
    subst plus
    have below : ∀ n < 16, isUnreserved (Char.ofNat n) = false := by decide
    simp only [tripletValue?, last, if_true, Option.some.injEq] at number
    subst number
    have reserved := below units (Text.digitValue?_lt last)
    have sign : Text.digitValue? 16 '+' = none := by decide
    exact .inr ⟨by simp [unreservedOf?, sign], by simp [reserved]⟩
  · obtain ⟨sixteens, first⟩ := first.resolve_left plus
    simp only [tripletValue?, last, if_neg plus, first, Option.map_some,
      Option.some.injEq] at number
    subst number
    -- With two digits both go by whether their character is unreserved.
    have decoded : unreservedOf? high low =
        if isUnreserved (Char.ofNat (sixteens * 16 + units)) then
          some (Char.ofNat (sixteens * 16 + units)) else none := by
      simp [unreservedOf?, first, last]
    split
    · rename_i unreserved
      exact .inl ⟨_, by rw [decoded, if_pos unreserved], rfl⟩
    · rename_i reserved
      exact .inr ⟨by rw [decoded, if_neg reserved], rfl⟩

/-- Canonical and decoded texts differ in the case of the triplets that are left. -/
theorem asciiLower_decodeUnreserved {text canonical : Text}
    (read : canonicalEscapes? text = some canonical) :
    Text.asciiLower (decodeUnreserved text) = Text.asciiLower canonical := by
  rw [canonicalEscapes?_eq_some_iff] at read
  induction read with
  | nil => rfl
  | triplet part _ same =>
    simp only [Text.asciiLower] at same
    -- A triplet that is left was brought into upper case, which lower case takes back.
    rcases unreservedOf?_of_canonicalTriplet? part with ⟨c, decoded, rfl⟩ | ⟨left, rfl⟩
    · simp [decodeUnreserved, decoded, Text.asciiLower, same]
    · simp only [decodeUnreserved, left, Text.asciiLower, List.cons_append, List.nil_append,
        List.map_cons, Text.toLower_toUpper, same]
  | @other c rest _ plain _ same =>
    have kept : decodeUnreserved (c :: rest) = c :: decodeUnreserved rest := by
      rw [decodeUnreserved.eq_3]
      simp_all
    simpa [kept, Text.asciiLower] using same

/-- A host is found in a part that differs in case alone. -/
theorem exists_hostPort?_of_asciiLower_eq {part part' : Text}
    (same : Text.asciiLower part = Text.asciiLower part') :
    (∃ host port, hostPort? part = some (host, port) ∧ host ≠ []) ↔
      ∃ host port, hostPort? part' = some (host, port) ∧ host ≠ [] := by
  -- It is found where it is in lower case, and there both parts are the same.
  have lower : ∀ part, (∃ host port, hostPort? part = some (host, port) ∧ host ≠ []) ↔
      ∃ host port, hostPort? (Text.asciiLower part) = some (host, port) ∧ host ≠ [] := by
    intro part
    rw [hostPort?_asciiLower]
    cases hostPort? part with
    | none => simp
    | some parts =>
      obtain ⟨host, port⟩ := parts
      simp [Text.asciiLower]
  rw [lower part, same, ← lower part']

/-- A host is found in a part that splits into one and a port. -/
theorem exists_hostPort?_iff {part : Text} :
    (∃ host port, hostPort? part = some (host, port) ∧ host ≠ []) ↔
      ∃ host port, SplitsPort part host port ∧ host ≠ [] ∧
        ∀ digits ∈ port, IsPort true digits := by
  -- Both sides tell the same split; a number is found for the port exactly when it is one.
  simp only [hostPort?_eq_some_iff, splitPort?_eq_some_iff, ← isSome_portNumber?_iff,
    Option.isSome_iff_exists, SplitsPort]
  constructor
  · rintro ⟨host, number, ⟨port, parts, valid⟩, nonempty⟩
    exact ⟨host, port, parts, nonempty, number, valid⟩
  · rintro ⟨host, port, parts, nonempty, number, valid⟩
    exact ⟨host, number, ⟨port, parts, valid⟩, nonempty⟩

/-- A part splits in one way alone. -/
theorem SplitsPort.unique {part host host' : Text} {port port' : Option Text}
    (parts : SplitsPort part host port) (parts' : SplitsPort part host' port') :
    host = host' ∧ port = port' := by
  -- Both ways are what the reader finds.
  have first := splitPort?_eq_some_iff.mpr parts
  rw [splitPort?_eq_some_iff.mpr parts'] at first
  cases first
  exact ⟨rfl, rfl⟩

/-- A canonical form is read when the part where the decoded text has its host splits into one and
a port. -/
theorem ofHierarchy_canonical_isOk_iff {scheme : Scheme} {rest canonical : Text}
    (escapes : canonicalEscapes? rest = some canonical) :
    (∃ uri, ofHierarchy scheme canonical = .ok uri) ↔
      ∃ host port, SplitsPort (hostPart (decodeUnreserved rest)) host port ∧ host ≠ [] ∧
        ∀ digits ∈ port, IsPort true digits := by
  -- The reader looks at the canonical text, which has its host part where the decoded one has it.
  have same : Text.asciiLower (hostPart canonical) =
      Text.asciiLower (hostPart (decodeUnreserved rest)) := by
    rw [← hostPart_asciiLower, ← hostPart_asciiLower, asciiLower_decodeUnreserved escapes]
  rw [ofHierarchy_isOk_iff, exists_hostPort?_of_asciiLower_eq same, exists_hostPort?_iff]

/-- Two schemes are known, in any case. -/
theorem exists_ofText?_iff {name : Text} : (∃ scheme, Scheme.ofText? name = some scheme) ↔
    Text.asciiLower name = "http" ∨ Text.asciiLower name = "https" := by
  -- The two names are asked for one after the other.
  unfold Scheme.ofText?
  split
  · rename_i http
    exact iff_of_true ⟨.http, rfl⟩ (.inl http)
  rename_i http
  split
  · rename_i https
    exact iff_of_true ⟨.https, rfl⟩ (.inr https)
  · rename_i https
    exact iff_of_false (fun ⟨_, known⟩ => nomatch known) (not_or.mpr ⟨http, https⟩)

/-- A text that is read is one of the grammar with signs. -/
theorem isHttpUri_of_parse {text : Text} {uri : Uri} (read : parse text = .ok uri) :
    IsHttpUri true text := by
  obtain ⟨graphic, name, rest, scheme, canonical, rfl, known, escapes, hierarchy⟩ :=
    parse_eq_ok_iff.mp read
  -- Each step that the text passed is one condition of the grammar.
  have triplets : EachTriplet (IsHexPair true) rest :=
    (isSome_canonicalEscapes?_iff.mp (Option.isSome_iff_exists.mpr ⟨_, escapes⟩)).mono
      fun _ _ => isSome_tripletValue?_iff.mp
  obtain ⟨host, port, parts, nonempty, digits⟩ :=
    (ofHierarchy_canonical_isOk_iff escapes).mp ⟨uri, hierarchy⟩
  exact .spelled graphic (exists_ofText?_iff.mp ⟨scheme, known⟩) triplets parts nonempty digits

/-- A text of the grammar with signs is read. -/
theorem IsHttpUri.exists_parse {text : Text} (spelled : IsHttpUri true text) :
    ∃ uri, parse text = .ok uri := by
  obtain ⟨graphic, scheme, triplets, parts, nonempty, digits⟩ := spelled
  -- The conditions give the scheme, the canonical form and the URI that the steps arrive at.
  obtain ⟨scheme, known⟩ := exists_ofText?_iff.mpr scheme
  obtain ⟨canonical, escapes⟩ := Option.isSome_iff_exists.mp <|
    isSome_canonicalEscapes?_iff.mpr (triplets.mono fun _ _ => isSome_tripletValue?_iff.mpr)
  obtain ⟨uri, hierarchy⟩ : ∃ uri, ofHierarchy scheme canonical = .ok uri :=
    (ofHierarchy_canonical_isOk_iff escapes).mpr ⟨_, _, parts, nonempty, digits⟩
  exact ⟨uri, parse_eq_ok_iff.mpr
    ⟨graphic, _, _, scheme, canonical, rfl, known, escapes, hierarchy⟩⟩

/-- The name of a known scheme has neither a colon nor a percent sign. -/
theorem not_mem_of_schemeName {name : Text}
    (scheme : Text.asciiLower name = "http" ∨ Text.asciiLower name = "https") :
    ':' ∉ name ∧ '%' ∉ name := by
  -- A known scheme is a name, which has neither.
  obtain ⟨scheme, known⟩ := exists_ofText?_iff.mpr scheme
  have form := Scheme.isName_of_ofText? known
  exact ⟨Scheme.not_mem_of_isName (by decide) form, Scheme.not_mem_of_isName (by decide) form⟩

/-- A port without a sign is one. -/
theorem IsPort.signs {text : Text} (port : IsPort false text) : IsPort true text := by
  -- No case of a port without a sign has one.
  rcases port with empty | number | ⟨sign, _⟩
  · exact .inl empty
  · exact .inr (.inl number)
  · cases sign

/-- No text of the grammar without signs has one. -/
theorem IsHttpUri.not_hasSign {text : Text} (spelled : IsHttpUri false text) : ¬HasSign text := by
  obtain @⟨name, rest, host, port, _, scheme, triplets, parts, _, digits⟩ := spelled
  obtain ⟨colon, percent⟩ := not_mem_of_schemeName scheme
  generalize whole : name ++ "://" ++ rest = text
  rintro (⟨front, back, inside⟩ | ⟨colon', parts'⟩)
  · -- The triplet is behind the scheme, where its first character is a digit.
    have plain : '%' ∉ name ++ "://" := List.not_mem_append percent (by decide)
    obtain ⟨high, low, _, behind, digit | ⟨sign, _⟩, _⟩ :=
      (eachTriplet_of_no_percent plain).append triplets front ('+' :: back)
        (by rw [whole, ← inside]; simp)
    · cases behind
      cases digit
    · cases sign
  · -- Text and part are cut in one way alone, so the sign is in front of the port.
    have first := splitFirst_scheme colon rest
    rw [whole, splitFirst_scheme colon'] at first
    cases first
    obtain ⟨rfl, rfl⟩ := parts.unique parts'
    rcases digits _ rfl with empty | number | ⟨sign, _⟩
    · cases empty
    · exact absurd (number.2.1 '+' (.head _)) (by decide)
    · cases sign

/-- A text of the grammar with signs is one of the grammar without them, when it has none. -/
theorem IsHttpUri.of_not_hasSign {text : Text} (spelled : IsHttpUri true text)
    (absent : ¬HasSign text) : IsHttpUri false text := by
  obtain @⟨name, rest, host, port, graphic, scheme, triplets, parts, nonempty, digits⟩ := spelled
  refine .spelled graphic scheme ?_ parts nonempty ?_
  · -- A triplet that begins with a plus sign would be a sign of the text.
    rintro front back rfl
    obtain ⟨high, low, more, rfl, digit | ⟨_, rfl⟩, digit'⟩ := triplets front back rfl
    · exact ⟨high, low, more, rfl, .inl digit, digit'⟩
    · exact absurd (.triplet ⟨name ++ "://" ++ front, low :: more, by simp⟩) absent
  · -- And so would a port that does.
    intro text inside
    rcases digits text inside with empty | number | ⟨_, number, rfl, _⟩
    · exact .inl empty
    · exact .inr (.inl number)
    · rw [Option.mem_def.mp inside] at parts
      exact absurd (.port (not_mem_of_schemeName scheme).1 parts) absent

/-- The grammar without signs is within the one with them. -/
theorem IsHttpUri.signs {text : Text} (spelled : IsHttpUri false text) : IsHttpUri true text := by
  -- Triplets and port are the only places where a sign may stand.
  obtain ⟨graphic, scheme, triplets, parts, nonempty, digits⟩ := spelled
  refine .spelled graphic scheme (triplets.mono ?_) parts nonempty ?_
  · rintro high low ⟨digit | ⟨sign, _⟩, digit'⟩
    · exact ⟨.inl digit, digit'⟩
    · cases sign
  · exact fun text inside => (digits text inside).signs

/-- A text has a normal form when it is read. -/
theorem exists_normalize_iff {text : Text} :
    (∃ normal, normalize text = .ok normal) ↔ ∃ uri, parse text = .ok uri := by
  rw [normalize]
  cases parse text <;> simp [Except.map]

/-- Exactly the texts of the grammar with signs have a normal form. Those among them in which no
sign stands are exactly the texts of the grammar without signs. -/
theorem normalize_isOk_iff (text : Text) :
    ((∃ normal, normalize text = .ok normal) ↔ IsHttpUri true text) ∧
      (IsHttpUri false text ↔ (∃ normal, normalize text = .ok normal) ∧ ¬HasSign text) := by
  have accepted : (∃ normal, normalize text = .ok normal) ↔ IsHttpUri true text := by
    rw [exists_normalize_iff]
    exact ⟨fun ⟨_, read⟩ => isHttpUri_of_parse read, IsHttpUri.exists_parse⟩
  -- The two grammars differ in the texts that have a sign somewhere.
  refine ⟨accepted, ?_⟩
  rw [accepted]
  constructor
  · intro spelled
    exact ⟨spelled.signs, spelled.not_hasSign⟩
  · rintro ⟨spelled, absent⟩
    exact spelled.of_not_hasSign absent

/-- A triplet with a plus sign and a port with one have a normal form, outside of the grammar
without signs. -/
theorem normalize_isOk_plus :
    (normalize "http://host/%+5" = .ok "http://host/%+5" ∧
      ¬IsHttpUri false "http://host/%+5") ∧
    normalize "http://host:+8080/" = .ok "http://host:8080/" ∧
      ¬IsHttpUri false "http://host:+8080/" := by
  -- Each text has a sign, so the grammar without them excludes it.
  refine ⟨⟨by decide +kernel, fun spelled => ?_⟩, by decide +kernel, fun spelled => ?_⟩
  · refine ((normalize_isOk_iff _).2.mp spelled).2 (.triplet ?_)
    exact ⟨"http://host/".toList, ['5'], rfl⟩
  · refine ((normalize_isOk_iff _).2.mp spelled).2 ?_
    have parts : SplitsPort "host:+8080" "host" (some "+8080") := by
      refine ⟨rfl, ?_⟩
      rw [if_neg (by decide)]
      decide
    have text : ("http" : Text) ++ "://" ++ "host:+8080/" = "http://host:+8080/" := rfl
    rw [← text]
    exact .port (by decide) parts

end RelyingParty.Uri
