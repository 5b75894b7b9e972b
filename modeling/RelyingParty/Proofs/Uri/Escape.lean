import RelyingParty.Uri.Escape

/-! Canonical escapes keep the marks that cut a URI where they are. -/

namespace RelyingParty.Uri

/-- Whether a character can neither stand in a triplet nor come out of one. -/
def isMark (c : Char) : Bool := !isUnreserved c && c != '%' && c != '+'

/-- Hexadecimal digits are ASCII characters. -/
theorem toNat_lt_of_digitValue? {c : Char} {value : Nat}
    (digit : Text.digitValue? 16 c = some value) : c.toNat < 128 := by
  -- The ranges of digits end far below.
  refine Nat.lt_of_not_le fun large => ?_
  have above : ∀ d : Char, d.toNat < 128 → ¬c ≤ d := fun d small below => by
    have : c.toNat ≤ d.toNat := below
    omega
  simp [Text.digitValue?, above] at digit

/-- Hexadecimal digits are unreserved characters, in upper case too. -/
theorem isUnreserved_of_digitValue? {c : Char} {value : Nat}
    (digit : Text.digitValue? 16 c = some value) :
    isUnreserved c = true ∧ isUnreserved c.toUpper = true := by
  -- ASCII characters can be tried one after the other.
  have tried : ∀ n < 128, (Text.digitValue? 16 (Char.ofNat n)).isSome = true →
      isUnreserved (Char.ofNat n) = true ∧ isUnreserved (Char.ofNat n).toUpper = true := by
    decide +kernel
  have := tried c.toNat (toNat_lt_of_digitValue? digit)
  rw [Char.ofNat_toNat, digit] at this
  exact this rfl

/-- A mark is no digit. -/
theorem digitValue?_of_isMark {c : Char} (mark : isMark c = true) :
    Text.digitValue? 16 c = none := by
  -- A digit is unreserved, and a mark is not.
  cases digit : Text.digitValue? 16 c with
  | none => rfl
  | some value => simp [isMark, (isUnreserved_of_digitValue? digit).1] at mark

/-- The characters of a triplet are two digits, or a plus sign and one. -/
theorem digits_of_tripletValue? {high low : Char} {value : Nat}
    (read : tripletValue? high low = some value) :
    (high = '+' ∨ ∃ sixteens, Text.digitValue? 16 high = some sixteens) ∧
      ∃ units, Text.digitValue? 16 low = some units := by
  -- The low digit is looked at first, and a plus sign in front of it counts as nothing.
  unfold tripletValue? at read
  split at read
  · cases read
  · rename_i units digit
    refine ⟨?_, units, digit⟩
    by_cases plus : high = '+'
    · exact .inl plus
    · rw [if_neg plus] at read
      obtain ⟨sixteens, found, _⟩ := Option.map_eq_some_iff.mp read
      exact .inr ⟨sixteens, found⟩

/-- A mark is not part of a triplet. -/
theorem canonicalTriplet?_of_isMark {c : Char} (mark : isMark c = true) (other : Char) :
    canonicalTriplet? c other = none ∧ canonicalTriplet? other c = none := by
  -- Behind the percent sign only digits and a plus sign are read.
  have digit := digitValue?_of_isMark mark
  have plus : c ≠ '+' := by
    rintro rfl
    simp [isMark] at mark
  constructor
  · simp only [canonicalTriplet?, tripletValue?, digit, if_neg plus, Option.map_none]
    cases Text.digitValue? 16 other <;> rfl
  · simp [canonicalTriplet?, tripletValue?, digit]

/-- A character other than a percent sign is kept. -/
theorem canonicalEscapes?_cons {c : Char} (plain : c ≠ '%') (rest : Text) :
    canonicalEscapes? (c :: rest) = (canonicalEscapes? rest).map (c :: ·) := by
  rw [canonicalEscapes?.eq_3] <;> simp_all

/-- Which texts have which canonical forms: one triplet after the other is replaced, and all other
characters are kept. -/
inductive CanonicalForm : Text → Text → Prop
  | nil : CanonicalForm [] []
  | triplet {high low : Char} {rest form tail : Text}
    (part : canonicalTriplet? high low = some form) (parts : CanonicalForm rest tail) :
    CanonicalForm ('%' :: high :: low :: rest) (form ++ tail)
  | other {c : Char} {rest tail : Text} (plain : c ≠ '%') (parts : CanonicalForm rest tail) :
    CanonicalForm (c :: rest) (c :: tail)

/-- What is read of a text is its canonical form. -/
theorem canonicalEscapes?_eq_some_iff {text canonical : Text} :
    canonicalEscapes? text = some canonical ↔ CanonicalForm text canonical := by
  -- The cases of the relation are those in which reading goes on.
  constructor
  · intro read
    fun_induction canonicalEscapes? text generalizing canonical with
    | case1 =>
      cases read
      exact .nil
    | case2 high low rest ih =>
      simp only [Option.bind_eq_bind, Option.bind_eq_some_iff, Option.pure_def,
        Option.some.injEq] at read
      -- A triplet is read when it has a canonical form, and the text behind it has one.
      obtain ⟨form, part, tail, parts, rfl⟩ := read
      exact .triplet part (ih parts)
    | case3 => cases read
    | case4 c rest _ plain ih =>
      obtain ⟨tail, parts, rfl⟩ := Option.map_eq_some_iff.mp read
      exact .other plain (ih parts)
  · intro form
    induction form with
    | nil => rfl
    | triplet part _ ih => simp [canonicalEscapes?, part, ih]
    | other plain _ ih =>
      rw [canonicalEscapes?_cons plain, ih]
      rfl

/-- Marks part a text: what stands on both sides of one is read on its own. -/
theorem canonicalEscapes?_append_mark {c : Char} (mark : isMark c = true) (front back : Text) :
    canonicalEscapes? (front ++ c :: back) =
      (canonicalEscapes? front).bind fun before =>
        (canonicalEscapes? back).map fun after => before ++ c :: after := by
  -- A triplet before the mark ends before it.
  fun_induction canonicalEscapes? front with
  | case1 =>
    have plain : c ≠ '%' := by
      rintro rfl
      simp [isMark] at mark
    simp [canonicalEscapes?_cons plain]
  | case2 high low rest ih =>
    simp only [List.cons_append, canonicalEscapes?, ih]
    cases canonicalTriplet? high low with
    | none => rfl
    | some triplet => cases canonicalEscapes? rest <;> cases canonicalEscapes? back <;> simp
  | case3 rest short =>
    -- The percent sign has the mark too near, and neither text is read.
    cases rest with
    | nil =>
      cases back with
      | nil => simp [canonicalEscapes?]
      | cons low back => simp [canonicalEscapes?, (canonicalTriplet?_of_isMark mark low).1]
    | cons high rest =>
      cases rest with
      | nil => simp [canonicalEscapes?, (canonicalTriplet?_of_isMark mark high).2]
      | cons low rest => exact absurd rfl (short high low rest rfl)
  | case4 d rest _ plain ih =>
    rw [List.cons_append, canonicalEscapes?_cons plain, ih]
    cases canonicalEscapes? rest <;> cases canonicalEscapes? back <;> rfl

/-- Two texts are read on their own when the second one begins with a mark, or is empty. -/
theorem canonicalEscapes?_append_of_head {back : Text} (marks : ∀ c ∈ back.head?, isMark c = true)
    (front : Text) :
    canonicalEscapes? (front ++ back) =
      (canonicalEscapes? front).bind fun before =>
        (canonicalEscapes? back).map fun after => before ++ after := by
  -- A mark is no percent sign, so it is read as itself.
  cases back with
  | nil => simp [canonicalEscapes?]
  | cons c back =>
    have plain : c ≠ '%' := by
      rintro rfl
      exact absurd (marks '%' rfl) (by decide)
    simp only [canonicalEscapes?_append_mark (marks c rfl), canonicalEscapes?_cons plain,
      Option.map_map]
    rfl

/-- A mark is not in the canonical form of a triplet. -/
theorem not_mem_of_canonicalTriplet? {c high low : Char} (mark : isMark c = true) {triplet : Text}
    (read : canonicalTriplet? high low = some triplet) : c ∉ triplet := by
  -- What is decoded is unreserved, and what is kept are a percent sign, digits, and plus signs.
  obtain ⟨value, number, rfl⟩ := Option.map_eq_some_iff.mp read
  simp only [isMark, Bool.and_eq_true, Bool.not_eq_true', bne_iff_ne] at mark
  obtain ⟨⟨reserved, percent⟩, plus⟩ := mark
  split
  · rename_i unreserved
    have differs : c ≠ Char.ofNat value := by
      rintro rfl
      exact absurd unreserved (Bool.eq_false_iff.mp reserved)
    exact List.not_mem_cons_of_ne_of_not_mem differs List.not_mem_nil
  · -- Digits are unreserved in upper case as well, which no mark is.
    obtain ⟨first, units, digit⟩ := digits_of_tripletValue? number
    have kept : ∀ d value, Text.digitValue? 16 d = some value → c ≠ d.toUpper := by
      rintro d value digit rfl
      exact absurd (isUnreserved_of_digitValue? digit).2 (Bool.eq_false_iff.mp reserved)
    have differs : c ≠ high.toUpper := by
      rcases first with rfl | ⟨sixteens, found⟩
      · exact plus
      · exact kept high sixteens found
    simp [percent, differs, kept low units digit]

/-- A mark that a text does not have is not in its canonical form. -/
theorem not_mem_of_canonicalEscapes? {c : Char} (mark : isMark c = true) {text canonical : Text}
    (read : canonicalEscapes? text = some canonical) (absent : c ∉ text) : c ∉ canonical := by
  -- Triplets bring no mark, and all other characters are those of the text.
  rw [canonicalEscapes?_eq_some_iff] at read
  induction read with
  | nil => exact List.not_mem_nil
  | triplet part _ ih =>
    have outside := fun inside => absent (.tail _ (.tail _ (.tail _ inside)))
    exact List.not_mem_append (not_mem_of_canonicalTriplet? mark part) (ih outside)
  | other _ _ ih =>
    exact List.not_mem_cons_of_ne_of_not_mem (List.ne_of_not_mem_cons absent)
      (ih (List.not_mem_of_not_mem_cons absent))

end RelyingParty.Uri
