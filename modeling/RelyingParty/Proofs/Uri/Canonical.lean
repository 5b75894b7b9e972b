import RelyingParty.Proofs.Text.Casing
import RelyingParty.Proofs.Uri.Escape

/-! Canonical escapes stay as they are, and are the same for all spellings of a text. -/

namespace RelyingParty.Uri

/-- A text that is read by itself is read in front of any other. -/
theorem canonicalEscapes?_append {front before : Text}
    (read : canonicalEscapes? front = some before) (back : Text) :
    canonicalEscapes? (front ++ back) = (canonicalEscapes? back).map (before ++ ·) := by
  -- No triplet of the front reaches into what follows it.
  rw [canonicalEscapes?_eq_some_iff] at read
  induction read with
  | nil => simp
  | triplet part _ ih =>
    simp only [List.cons_append, canonicalEscapes?, part, ih]
    cases canonicalEscapes? back with
    | none => rfl
    | some after => simp
  | other plain _ ih =>
    rw [List.cons_append, canonicalEscapes?_cons plain, ih, Option.map_map]
    rfl

/-- A digit of a triplet is the same digit in upper case, where it stays. -/
theorem digitValue?_toUpper {c : Char} {value : Nat} (digit : Text.digitValue? 16 c = some value) :
    Text.digitValue? 16 c.toUpper = some value ∧ c.toUpper.toUpper = c.toUpper ∧
      c.toUpper ≠ '+' := by
  -- Digits are ASCII characters, and all of these are tried.
  have tried : ∀ n < 128, (Text.digitValue? 16 (Char.ofNat n)).isSome = true →
      Text.digitValue? 16 (Char.ofNat n).toUpper = Text.digitValue? 16 (Char.ofNat n) ∧
        (Char.ofNat n).toUpper.toUpper = (Char.ofNat n).toUpper ∧
          (Char.ofNat n).toUpper ≠ '+' := by
    decide +kernel
  have := tried c.toNat (toNat_lt_of_digitValue? digit)
  rw [Char.ofNat_toNat, digit] at this
  exact this rfl

/-- The triplet of a value that is not unreserved is canonical in upper case. -/
theorem canonicalTriplet?_toUpper {high low : Char} {triplet : Text}
    (read : canonicalTriplet? high low = some triplet) :
    (∃ c, triplet = [c] ∧ isUnreserved c = true) ∨
      triplet = ['%', high.toUpper, low.toUpper] ∧
        canonicalTriplet? high.toUpper low.toUpper = some triplet := by
  obtain ⟨value, number, same⟩ := Option.map_eq_some_iff.mp read
  by_cases unreserved : isUnreserved (Char.ofNat value) = true
  · rw [if_pos unreserved] at same
    exact .inl ⟨_, same.symm, unreserved⟩
  · rw [if_neg unreserved] at same
    refine .inr ⟨same.symm, ?_⟩
    -- Both digits keep their value, and a plus sign is its own upper case.
    obtain ⟨first, units, last⟩ := digits_of_tripletValue? number
    obtain ⟨last', lastUpper, _⟩ := digitValue?_toUpper last
    have upper : tripletValue? high.toUpper low.toUpper = some value ∧
        high.toUpper.toUpper = high.toUpper := by
      -- The first character is a plus sign or a digit.
      rcases first with rfl | ⟨sixteens, digit⟩
      · refine ⟨?_, rfl⟩
        rw [← number]
        simp only [tripletValue?, last, last']
        rfl
      · obtain ⟨digit', highUpper, plus⟩ := digitValue?_toUpper digit
        refine ⟨?_, highUpper⟩
        have other : high ≠ '+' := by
          rintro rfl
          exact plus rfl
        rw [← number]
        simp only [tripletValue?, last, last', digit, digit', if_neg plus, if_neg other]
    rw [canonicalTriplet?, upper.1, Option.map_some, if_neg unreserved, upper.2, lastUpper, ← same]

/-- A canonical form is its own canonical form. -/
theorem canonicalEscapes?_canonical {text canonical : Text}
    (read : canonicalEscapes? text = some canonical) :
    canonicalEscapes? canonical = some canonical := by
  rw [canonicalEscapes?_eq_some_iff] at read
  induction read with
  | nil => rfl
  | @triplet _ _ _ form _ part _ ih =>
    -- A triplet became a character other than the percent sign, or one in upper case.
    have whole : canonicalEscapes? form = some form := by
      rcases canonicalTriplet?_toUpper part with ⟨c, rfl, unreserved⟩ | ⟨rfl, upper⟩
      · have plain : c ≠ '%' := by
          rintro rfl
          cases unreserved
        rw [canonicalEscapes?_cons plain]
        rfl
      · simp [canonicalEscapes?, upper]
    rw [canonicalEscapes?_append whole, ih]
    rfl
  -- Any other character is read as it is.
  | other plain _ ih =>
    rw [canonicalEscapes?_cons plain, ih]
    rfl

/-- A canonical form is no longer than the text. -/
theorem canonicalEscapes?_length_le {text canonical : Text}
    (read : canonicalEscapes? text = some canonical) : canonical.length ≤ text.length := by
  -- A triplet is decoded into one character or keeps its three.
  rw [canonicalEscapes?_eq_some_iff] at read
  induction read with
  | nil => exact Nat.le_refl _
  | @triplet _ _ _ form _ part _ shorter =>
    have three : form.length ≤ 3 := by
      rcases canonicalTriplet?_toUpper part with ⟨c, rfl, _⟩ | ⟨rfl, _⟩
      · exact Nat.le_add_left 1 2
      · exact Nat.le_refl 3
    simp only [List.length_append, List.length_cons]
    omega
  | other _ _ shorter => exact Nat.succ_le_succ shorter

/-- Two texts are canonical together when both are and the second one begins with a mark, or is
empty. -/
theorem canonical_append_iff {front back : Text} (marks : ∀ c ∈ back.head?, isMark c = true) :
    canonicalEscapes? (front ++ back) = some (front ++ back) ↔
      canonicalEscapes? front = some front ∧ canonicalEscapes? back = some back := by
  rw [canonicalEscapes?_append_of_head marks]
  constructor
  · intro read
    obtain ⟨before, first, rest⟩ := Option.bind_eq_some_iff.mp read
    obtain ⟨after, last, same⟩ := Option.map_eq_some_iff.mp rest
    -- Neither side has become longer, so neither has become shorter.
    have shorter := canonicalEscapes?_length_le first
    have shorter' := canonicalEscapes?_length_le last
    have lengths := congrArg List.length same
    simp only [List.length_append] at lengths
    obtain ⟨rfl, rfl⟩ := List.append_inj same (by omega)
    exact ⟨first, last⟩
  · rintro ⟨first, last⟩
    rw [first, last]
    rfl

/-- A mark of a text is in its canonical form. -/
theorem mem_of_canonicalEscapes? {c : Char} (mark : isMark c = true) {text canonical : Text}
    (read : canonicalEscapes? text = some canonical) (inside : c ∈ text) : c ∈ canonical := by
  -- The mark cuts the text in two parts that are read on their own.
  obtain ⟨front, back, rfl⟩ := List.append_of_mem inside
  rw [canonicalEscapes?_append_mark mark] at read
  obtain ⟨before, _, rest⟩ := Option.bind_eq_some_iff.mp read
  obtain ⟨after, _, rfl⟩ := Option.map_eq_some_iff.mp rest
  simp

/-- A mark in front of a text is in front of its canonical form. -/
theorem head?_of_canonicalEscapes? {text canonical : Text}
    (marks : ∀ c ∈ text.head?, isMark c = true) (read : canonicalEscapes? text = some canonical) :
    canonical.head? = text.head? := by
  -- A mark is no percent sign, so it is kept where it stands.
  cases text with
  | nil =>
    cases read
    rfl
  | cons c rest =>
    have plain : c ≠ '%' := by
      rintro rfl
      exact absurd (marks '%' rfl) (by decide)
    rw [canonicalEscapes?_cons plain] at read
    obtain ⟨tail, _, rfl⟩ := Option.map_eq_some_iff.mp read
    rfl

/-- What holds of every unreserved ASCII character holds of all unreserved ones. -/
theorem isUnreserved_induction {p : Char → Prop}
    (tried : ∀ n < 128, isUnreserved (Char.ofNat n) = true → p (Char.ofNat n)) {c : Char}
    (unreserved : isUnreserved c = true) : p c := by
  -- Unreserved characters are ASCII characters.
  have ascii : c.toNat < 128 := by
    have range := unreserved
    simp only [isUnreserved, Bool.or_eq_true, decide_eq_true_eq] at range
    rcases range with (((letter | rfl) | rfl) | rfl) | rfl
    · exact Text.toNat_lt_of_isAlphanum letter
    · decide
    · decide
    · decide
    · decide
  have := tried c.toNat ascii
  rw [Char.ofNat_toNat] at this
  exact this unreserved

/-- Unreserved characters are printable. -/
theorem isGraphic_of_isUnreserved {c : Char} (unreserved : isUnreserved c = true) :
    isGraphic c = true :=
  isUnreserved_induction (p := fun c => isGraphic c = true) (by decide +kernel) unreserved

/-- A text without triplets is canonical. -/
theorem canonicalEscapes?_of_no_percent {text : Text} (absent : '%' ∉ text) :
    canonicalEscapes? text = some text := by
  -- Every character is read as it is.
  induction text with
  | nil => rfl
  | cons c rest ih =>
    have plain : c ≠ '%' := Ne.symm (List.ne_of_not_mem_cons absent)
    rw [canonicalEscapes?_cons plain, ih (List.not_mem_of_not_mem_cons absent)]
    rfl

/-- The canonical form of a printable text is printable. -/
theorem isGraphic_of_canonicalEscapes? {text canonical : Text}
    (read : canonicalEscapes? text = some canonical) (graphic : ∀ c ∈ text, isGraphic c = true) :
    ∀ c ∈ canonical, isGraphic c = true := by
  intro c inside
  by_cases mark : isMark c = true
  · -- A mark was in the text already.
    refine graphic c (Decidable.not_not.mp fun absent => ?_)
    exact not_mem_of_canonicalEscapes? mark read absent inside
  · simp only [isMark, Bool.and_eq_true, Bool.not_eq_true', bne_iff_ne, not_and_or,
      Bool.not_eq_false, Decidable.not_not, ne_eq] at mark
    rcases mark with (unreserved | rfl) | rfl
    · exact isGraphic_of_isUnreserved unreserved
    · rfl
    · rfl

/-- Case does not change the canonical form of a triplet. -/
theorem canonicalTriplet?_toLower (high low : Char) :
    canonicalTriplet? high.toLower low.toLower = canonicalTriplet? high low := by
  -- The values of its digits do not depend on their case, nor does what is a plus sign.
  have digit := @Text.digitValue?_toLower 16 (by simp)
  have plus : high.toLower = '+' ↔ high = '+' := Text.toLower_eq_iff (by decide) high
  simp only [canonicalTriplet?, tripletValue?, digit, plus, Text.toUpper_toLower]

/-- A text and its lower case have the same canonical form, case aside. -/
theorem canonicalEscapes?_asciiLower (text : Text) :
    (canonicalEscapes? (Text.asciiLower text)).map Text.asciiLower =
      (canonicalEscapes? text).map Text.asciiLower := by
  fun_induction canonicalEscapes? text with
  | case1 => rfl
  | case2 high low rest ih =>
    show (canonicalEscapes? ('%' :: high.toLower :: low.toLower :: Text.asciiLower rest)).map _ = _
    simp only [canonicalEscapes?, canonicalTriplet?_toLower]
    cases canonicalTriplet? high low with
    | none => rfl
    | some triplet =>
      -- Behind the triplet both forms are missing, or the same in lower case.
      cases lower : canonicalEscapes? (Text.asciiLower rest) with
      | none =>
        rw [lower] at ih
        cases written : canonicalEscapes? rest with
        | none => rfl
        | some tail =>
          rw [written] at ih
          cases ih
      | some tail' =>
        rw [lower] at ih
        cases written : canonicalEscapes? rest with
        | none =>
          rw [written] at ih
          cases ih
        | some tail =>
          rw [written] at ih
          have same : Text.asciiLower tail' = Text.asciiLower tail := Option.some.inj ih
          simp [Text.asciiLower_append, same]
  | case3 rest short =>
    -- The percent sign has too little behind it in either case.
    cases rest with
    | nil => rfl
    | cons high rest =>
      cases rest with
      | nil => rfl
      | cons low rest => exact absurd rfl (short high low rest rfl)
  | case4 c rest _ plain ih =>
    have plain' : c.toLower ≠ '%' := mt (Text.toLower_eq_iff (by decide) c).mp plain
    show (canonicalEscapes? (c.toLower :: Text.asciiLower rest)).map _ = _
    rw [canonicalEscapes?_cons plain']
    -- A character in front adds itself to both forms, in one case.
    have shifted : ∀ d : Char, d.toLower = c.toLower → ∀ form : Option Text,
        (form.map (d :: ·)).map Text.asciiLower =
          (form.map Text.asciiLower).map (c.toLower :: ·) := by
      rintro d same (_ | form)
      · rfl
      · exact congrArg (fun e => some (e :: Text.asciiLower form)) same
    rw [shifted _ (Text.toLower_toLower c), shifted _ rfl, ih]

end RelyingParty.Uri
