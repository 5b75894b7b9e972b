import RelyingParty.Proofs.Uri.FixedPoint
import RelyingParty.Proofs.Uri.Triplet

/-! The triplets of a normal form: which of them are in upper case, and which ones the lower case of
the host and a plus sign leave otherwise. -/

namespace RelyingParty.Uri

open Text (marked)

/-- Whether two characters are hexadecimal digits in upper case that do not stand for an unreserved
character. -/
def IsCanonicalTriplet (high low : Char) : Prop :=
  ∃ sixteens units,
    Text.digitValue? 16 high = some sixteens ∧ Text.digitValue? 16 low = some units ∧
    high.toUpper = high ∧ low.toUpper = low ∧
    isUnreserved (Char.ofNat (sixteens * 16 + units)) = false

/-- Whether two characters are read as the triplet of a character that is not unreserved. -/
def IsReserved (high low : Char) : Prop :=
  ∃ value, tripletValue? high low = some value ∧ isUnreserved (Char.ofNat value) = false

/-- A triplet that stays as it is stands for a character that is not unreserved, and both of its
characters are their own upper case. -/
theorem reserved_of_canonicalTriplet? {high low : Char}
    (kept : canonicalTriplet? high low = some ['%', high, low]) :
    IsReserved high low ∧ high.toUpper = high ∧ low.toUpper = low := by
  obtain ⟨value, number, same⟩ := Option.map_eq_some_iff.mp kept
  -- A character that was decoded would stand alone.
  split at same
  · simp at same
  · rename_i reserved
    simp only [List.cons.injEq, and_true, true_and] at same
    exact ⟨⟨value, number, Bool.eq_false_iff.mpr reserved⟩, same⟩

/-- With two digits, a triplet in upper case is canonical. -/
theorem isCanonicalTriplet_of_ne_plus {high low : Char} (digit : high ≠ '+')
    (kept : canonicalTriplet? high low = some ['%', high, low]) : IsCanonicalTriplet high low := by
  obtain ⟨⟨value, number, reserved⟩, upper, upper'⟩ := reserved_of_canonicalTriplet? kept
  obtain ⟨first, units, last⟩ := digits_of_tripletValue? number
  obtain ⟨sixteens, first⟩ := first.resolve_left digit
  -- The value is that of both digits, since no plus sign stands for the first one.
  simp only [tripletValue?, last, if_neg digit, first, Option.map_some, Option.some.injEq] at number
  exact ⟨sixteens, units, first, last, upper, upper', by rw [number]; exact reserved⟩

/-- Without a plus sign behind a percent sign, all triplets of a canonical form are canonical. -/
theorem eachTriplet_isCanonical {text : Text} (canonical : canonicalEscapes? text = some text)
    (absent : ¬['%', '+'] <:+: text) : EachTriplet IsCanonicalTriplet text := by
  -- Of a triplet that is left as it is only a plus sign could be no digit.
  intro front back same
  obtain ⟨high, low, rest, rfl, kept⟩ := eachTriplet_of_canonicalEscapes? canonical front back same
  refine ⟨high, low, rest, rfl, isCanonicalTriplet_of_ne_plus ?_ kept⟩
  rintro rfl
  exact absent ⟨front, low :: rest, by simp [same]⟩

/-- A letter and its lower case are read alike in a triplet. -/
theorem tripletValue?_toLower (high low : Char) :
    tripletValue? high.toLower low.toLower = tripletValue? high low := by
  -- Only digits and the plus sign count, and neither depends on the case.
  have plus : high.toLower = '+' ↔ high = '+' := Text.toLower_eq_iff (by decide) high
  simp only [tripletValue?, @Text.digitValue?_toLower 16 (by simp), plus]

/-- What holds of the triplets of a text in lower case holds of its triplets there. -/
theorem EachTriplet.asciiLower {allowed : Char → Char → Prop} {text : Text}
    (each : EachTriplet (fun high low => allowed high.toLower low.toLower) text) :
    EachTriplet allowed (Text.asciiLower text) := by
  intro front back same
  -- The percent sign is its own lower case and that of no other character.
  obtain ⟨front', rest, rfl, _, behind⟩ := List.map_eq_append_iff.mp same
  obtain ⟨c, back', rfl, percent, lower⟩ := List.map_eq_cons_iff.mp behind
  rw [Text.toLower_eq_iff (by decide)] at percent
  subst percent
  obtain ⟨high, low, rest, rfl, known⟩ := each front' back' rfl
  exact ⟨high.toLower, low.toLower, Text.asciiLower rest, lower.symm, known⟩

/-- A digit is the lower case of no other character. -/
theorem eq_of_isDigit_toLower {c : Char} (digit : c.toLower.isDigit = true) : c.toLower = c :=
  Text.toLower_induction (p := fun c d => d.isDigit = true → d = c) (fun _ _ => rfl)
    (by decide +kernel) c digit

/-- A hexadecimal digit that is its own lower and upper case is a decimal one. -/
theorem isDigit_of_caseless {c : Char} {value : Nat} (known : Text.digitValue? 16 c = some value)
    (lower : c.toLower = c) (upper : c.toUpper = c) : c.isDigit = true := by
  -- Hexadecimal digits are ASCII characters, of which the letters have both cases.
  have tried : ∀ n < 128, (Text.digitValue? 16 (Char.ofNat n)).isSome = true →
      (Char.ofNat n).toLower = Char.ofNat n → (Char.ofNat n).toUpper = Char.ofNat n →
        (Char.ofNat n).isDigit = true := by
    decide +kernel
  have := tried c.toNat (toNat_lt_of_digitValue? known)
  rw [Char.ofNat_toNat, known] at this
  exact this rfl lower upper

/-- What a percent sign stands before in the host of a normal form: the triplet of a character that
is not unreserved, in lower case. -/
structure IsHostTriplet (high low : Char) : Prop where
  /-- An unreserved character would have been decoded. -/
  reserved : IsReserved high low
  /-- The first character is in lower case. -/
  lower : high.toLower = high
  /-- So is the second one. -/
  lower' : low.toLower = low
  /-- Digits have no case, so that the triplet is canonical. -/
  canonical : high.isDigit = true → low.isDigit = true → IsCanonicalTriplet high low

/-- The host of a normal form was a canonical form before it was brought into lower case. -/
theorem IsNormal.eachTriplet_host {uri : Uri} (normal : uri.IsNormal) :
    EachTriplet IsHostTriplet uri.host := by
  obtain ⟨canonical, read, lower⟩ := Option.map_eq_some_iff.mp normal.host
  rw [← lower]
  refine EachTriplet.asciiLower ((eachTriplet_of_canonicalEscapes? read).mono ?_)
  intro high low kept
  obtain ⟨⟨value, number, reserved⟩, _⟩ := reserved_of_canonicalTriplet? kept
  refine ⟨⟨value, ?_, reserved⟩, Text.toLower_toLower high, Text.toLower_toLower low, ?_⟩
  · rw [tripletValue?_toLower, number]
  · intro digit digit'
    -- Digits were the same before, and none of them is a plus sign.
    have same := eq_of_isDigit_toLower digit
    rw [same] at digit ⊢
    rw [eq_of_isDigit_toLower digit']
    refine isCanonicalTriplet_of_ne_plus ?_ kept
    rintro rfl
    cases digit

/-- What is written around the host of a normal form is a canonical form. -/
theorem IsNormal.exists_render {uri : Uri} (normal : uri.IsNormal) : ∃ front back,
    uri.render = front ++ uri.host ++ back ∧ canonicalEscapes? front = some front ∧
      canonicalEscapes? back = some back := by
  have scheme : canonicalEscapes? (uri.scheme.text ++ "://") = some (uri.scheme.text ++ "://") := by
    cases uri.scheme with
    | http => rfl
    | https => rfl
  have port : canonicalEscapes? (marked ':' (uri.port.map Text.ofNat)) =
      some (marked ':' (uri.port.map Text.ofNat)) :=
    canonicalEscapes?_of_no_percent fun inside => (plain_of_mem_marked inside).2.2.1 rfl
  -- Around the host stand the heading, and the port with what follows it.
  refine ⟨heading uri.scheme.text uri.userinfo,
    marked ':' (uri.port.map Text.ofNat) ++ tail uri.path uri.query uri.fragment, ?_, ?_, ?_⟩
  · simp [render_eq, hostText]
  · rw [heading, canonicalEscapes?_append scheme, normal.info]
    rfl
  · rw [canonicalEscapes?_append port, normal.behind]
    rfl

/-- The triplets of a normal form are those of characters that are not unreserved. -/
theorem IsNormal.eachTriplet_reserved {uri : Uri} (normal : uri.IsNormal) :
    EachTriplet IsReserved uri.render := by
  -- In front of the host and behind it the parts are canonical; in the host they are so in lower
  -- case.
  obtain ⟨front, back, whole, first, last⟩ := normal.exists_render
  have around : ∀ {part : Text}, canonicalEscapes? part = some part →
      EachTriplet IsReserved part := fun canonical =>
    (eachTriplet_of_canonicalEscapes? canonical).mono
      fun _ _ kept => (reserved_of_canonicalTriplet? kept).1
  have host := normal.eachTriplet_host.mono fun _ _ known => known.reserved
  rw [whole]
  exact ((around first).append host).append (around last)

/-- Among canonical triplets no percent sign stands in front of a plus sign. -/
theorem no_plus_of_canonical {text : Text} (canonical : EachTriplet IsCanonicalTriplet text) :
    ¬['%', '+'] <:+: text := by
  -- A plus sign is no digit.
  rintro ⟨before, after, same⟩
  obtain ⟨high, low, rest, behind, sixteens, _, digit, _⟩ :=
    canonical before ('+' :: after) (by simp [← same])
  cases behind
  cases digit

/-- When all triplets of a normal form are canonical, those of the host have no letters. -/
theorem IsNormal.eachTriplet_digits {uri : Uri} (normal : uri.IsNormal)
    (canonical : EachTriplet IsCanonicalTriplet uri.render) :
    EachTriplet (fun high low => high.isDigit = true ∧ low.isDigit = true) uri.host := by
  obtain ⟨front, back, whole, _, _⟩ := normal.exists_render
  intro before after same
  obtain ⟨high, low, rest, rfl, known⟩ := normal.eachTriplet_host before after same
  refine ⟨high, low, rest, rfl, ?_⟩
  -- A triplet of the host is in lower case, and in upper case it is one of the normal form.
  have part : uri.render = front ++ before ++ '%' :: (high :: low :: (rest ++ back)) := by
    simp [whole, same]
  obtain ⟨_, _, _, behind, _, _, digit, digit', upper, upper', _⟩ := canonical _ _ part
  cases behind
  exact ⟨isDigit_of_caseless digit known.lower upper,
    isDigit_of_caseless digit' known.lower' upper'⟩

/-- Without plus signs behind percent signs, and without letters in those of the host, all triplets
of a normal form are canonical. -/
theorem IsNormal.eachTriplet_canonical {uri : Uri} (normal : uri.IsNormal)
    (plus : ¬['%', '+'] <:+: uri.render)
    (digits : EachTriplet (fun high low => high.isDigit = true ∧ low.isDigit = true) uri.host) :
    EachTriplet IsCanonicalTriplet uri.render := by
  -- Only the host was changed after its triplets had been brought into canonical form.
  obtain ⟨front, back, whole, first, last⟩ := normal.exists_render
  rw [whole] at plus ⊢
  have start : front <+: front ++ uri.host ++ back :=
    (List.prefix_append front uri.host).trans (List.prefix_append _ back)
  have behind : back <:+ front ++ uri.host ++ back := List.suffix_append _ back
  have host : EachTriplet IsCanonicalTriplet uri.host := by
    -- In the host the digits have no case to lose.
    intro before after same
    obtain ⟨high, low, rest, behind, known⟩ := normal.eachTriplet_host before after same
    obtain ⟨_, _, _, behind', digit, digit'⟩ := digits before after same
    rw [behind] at behind'
    cases behind'
    exact ⟨high, low, rest, behind, known.canonical digit digit'⟩
  refine .append (.append ?_ host) ?_
  · exact eachTriplet_isCanonical first fun inside => plus (inside.trans start.isInfix)
  · exact eachTriplet_isCanonical last fun inside => plus (inside.trans behind.isInfix)

/-- Every percent sign of a normal form begins the triplet of a character that is not unreserved.
All of these triplets are canonical exactly when no percent sign stands in front of a plus sign, and
in the host each one stands in front of two decimal digits. -/
theorem eachTriplet_canonical_iff {text : Text} {uri : Uri} (read : parse text = .ok uri) :
    normalize text = .ok uri.render ∧ EachTriplet IsReserved uri.render ∧
      (EachTriplet IsCanonicalTriplet uri.render ↔
        ¬['%', '+'] <:+: uri.render ∧
          EachTriplet (fun high low => high.isDigit = true ∧ low.isDigit = true) uri.host) := by
  -- Lower case changes the triplets of the host alone, and of those only the letters.
  have normal := isNormal_of_parse read
  refine ⟨by rw [normalize, read]; rfl, normal.eachTriplet_reserved, ?_⟩
  constructor
  · intro canonical
    exact ⟨no_plus_of_canonical canonical, normal.eachTriplet_digits canonical⟩
  · rintro ⟨plus, digits⟩
    exact normal.eachTriplet_canonical plus digits

/-- Triplets in user information and path are in upper case, also behind a host with a triplet of
digits alone. In a host letters are in lower case, and a plus sign stays everywhere. -/
theorem eachTriplet_canonical_host :
    (normalize "http://a%3ab@x%25y/%7e%2f?%3d" = .ok "http://a%3Ab@x%25y/~%2F?%3D" ∧
      EachTriplet IsCanonicalTriplet "http://a%3Ab@x%25y/~%2F?%3D") ∧
    (normalize "http://host%2Fname/" = .ok "http://host%2fname/" ∧
      ¬EachTriplet IsCanonicalTriplet "http://host%2fname/") ∧
    normalize "http://host/%+5" = .ok "http://host/%+5" ∧
      ¬EachTriplet IsCanonicalTriplet "http://host/%+5" := by
  refine ⟨?_, ?_, ?_⟩
  · have read : parse "http://a%3ab@x%25y/%7e%2f?%3d" =
        .ok ⟨.http, some "a%3Ab", "x%25y", none, "/~%2F", some "%3D", none⟩ := by
      decide +kernel
    obtain ⟨written, _, canonical⟩ := eachTriplet_canonical_iff read
    refine ⟨written, canonical.mpr ⟨by decide, ?_⟩⟩
    -- The host has one triplet, whose digits have no case.
    refine (eachTriplet_cons (by decide)).mpr ?_
    exact (eachTriplet_triplet (by decide) (by decide)).mpr
      ⟨⟨rfl, rfl⟩, eachTriplet_of_no_percent (by decide)⟩
  · have read : parse "http://host%2Fname/" =
        .ok ⟨.http, none, "host%2fname", none, "/", none, none⟩ := by
      decide +kernel
    obtain ⟨written, _, canonical⟩ := eachTriplet_canonical_iff read
    -- A letter of the triplet is in lower case.
    refine ⟨written, fun each => ?_⟩
    obtain ⟨_, _, _, behind, _, letter⟩ := (canonical.mp each).2 "host" "2fname" rfl
    cases behind
    cases letter
  · have read : parse "http://host/%+5" = .ok ⟨.http, none, "host", none, "/%+5", none, none⟩ := by
      decide +kernel
    obtain ⟨written, _, canonical⟩ := eachTriplet_canonical_iff read
    -- A plus sign behind a percent sign is excluded outright.
    exact ⟨written, fun each => (canonical.mp each).1 ⟨"http://host/".toList, ['5'], rfl⟩⟩

end RelyingParty.Uri
