import Mathlib.Data.List.Basic
import RelyingParty.Proofs.Text
import RelyingParty.Proofs.Text.Blank

/-! Numbers are read back from the digits they are written in. -/

namespace RelyingParty.Text

/-- A decimal digit has the value of its place among the digits. -/
theorem digitValue?_of_isDigit {c : Char} (digit : c.isDigit = true) :
    digitValue? 10 c = some (c.toNat - '0'.toNat) := by
  -- The digits are the ten characters from zero on, and their values are below the base.
  have range : '0' ≤ c ∧ c ≤ '9' := by
    simp only [Char.isDigit, decide_eq_true_eq, Bool.and_eq_true] at digit
    exact digit
  have last : c.toNat ≤ '9'.toNat := range.2
  have nine : '9'.toNat = 57 := by decide
  have zero : '0'.toNat = 48 := by decide
  have small : c.toNat - '0'.toNat < 10 := by omega
  simp only [digitValue?, if_pos range]
  rw [if_pos small]

/-- A run of digits is read as the number that has them. -/
theorem digitsFrom?_of_isDigit {text : Text} (digits : ∀ c ∈ text, c.isDigit = true)
    (value : Nat) : digitsFrom? 10 value text = some (Nat.ofDigitChars 10 text value) := by
  induction text generalizing value with
  | nil => rfl
  | cons c rest ih =>
    rw [digitsFrom?, digitValue?_of_isDigit (digits c (.head _))]
    -- Each digit counts as much as it does in the number.
    rw [Nat.ofDigitChars_cons, Nat.mul_comm 10 value]
    exact ih (fun d inside => digits d (.tail _ inside)) _

/-- Only a decimal digit has a value among ten. -/
theorem isDigit_of_digitValue? {c : Char} (known : (digitValue? 10 c).isSome = true) :
    c.isDigit = true := by
  by_cases range : '0' ≤ c ∧ c ≤ '9'
  · simp only [Char.isDigit, Bool.and_eq_true, decide_eq_true_eq]
    exact range
  · -- The values of letters begin with ten, and what is no digit at all has ten itself.
    simp only [digitValue?, if_neg range, Option.isSome_ite] at known
    split at known
    · omega
    split at known
    · omega
    · omega

/-- The value of a digit is below the base. -/
theorem digitValue?_lt {base value : Nat} {c : Char} (known : digitValue? base c = some value) :
    value < base := by
  -- A value that does not fit the base is none.
  unfold digitValue? at known
  obtain ⟨small, same⟩ := Option.ite_none_right_eq_some.mp known
  rwa [Option.some.inj same] at small

/-- A number is read from one digit or more, and it is the number that has them. -/
theorem digits?_eq_some_iff {text : Text} {n : Nat} :
    digits? 10 text = some n ↔
      text ≠ [] ∧ (∀ c ∈ text, c.isDigit = true) ∧ Nat.ofDigitChars 10 text 0 = n := by
  cases text with
  | nil => simp [digits?]
  | cons c rest =>
    have whole : digits? 10 (c :: rest) = digitsFrom? 10 0 (c :: rest) := rfl
    rw [whole]
    constructor
    · -- A text that is read consists of digits, and of digits the number is known.
      intro read
      have digits : ∀ d ∈ c :: rest, d.isDigit = true := fun d inside =>
        isDigit_of_digitValue? (isSome_digitValue?_of_digitsFrom? read d inside)
      rw [digitsFrom?_of_isDigit digits] at read
      exact ⟨List.cons_ne_nil c rest, digits, Option.some.inj read⟩
    · rintro ⟨_, digits, rfl⟩
      exact digitsFrom?_of_isDigit digits 0

/-- Whether a text is a numeral of a number: decimal digits, one at least, of any length. -/
def IsNumeral (n : Nat) (text : Text) : Prop :=
  text ≠ [] ∧ (∀ c ∈ text, c.isDigit = true) ∧ Nat.ofDigitChars 10 text 0 = n

instance (n : Nat) (text : Text) : Decidable (IsNumeral n text) :=
  decidable_of_iff (text ≠ [] ∧ text.all Char.isDigit ∧ Nat.ofDigitChars 10 text 0 = n) (by
    rw [List.all_eq_true]
    exact .rfl)

/-- A digit is no blank. -/
theorem isBlank_of_isDigit {c : Char} (digit : c.isDigit = true) : isBlank c = false := by
  have among : ∀ n < 128, (Char.ofNat n).isDigit = true → isBlank (Char.ofNat n) = false := by
    decide +kernel
  -- A digit is an ASCII character, and all of those are tried.
  have range : '0' ≤ c ∧ c ≤ '9' := by
    simp only [Char.isDigit, decide_eq_true_eq, Bool.and_eq_true] at digit
    exact digit
  have last : c.toNat ≤ '9'.toNat := range.2
  have small : c.toNat < 128 := Nat.lt_of_le_of_lt last (by decide)
  rw [← c.ofNat_toNat] at digit ⊢
  exact among c.toNat small digit

/-- A digit comes after the space. -/
theorem space_lt_of_isDigit {c : Char} (digit : c.isDigit = true) : ' ' < c := by
  simp only [Char.isDigit, Bool.and_eq_true, decide_eq_true_eq] at digit
  exact Std.lt_of_lt_of_le (by decide : ' ' < '0') digit.1

/-- A numeral has no blanks around it. -/
theorem trim_of_isNumeral {n : Nat} {text : Text} (numeral : IsNumeral n text) :
    trim text = text :=
  trim_eq_self fun c inside => isBlank_of_isDigit (numeral.2.1 c inside)

/-- A numeral is read as its number when this one fits into 63 bits, and is not read otherwise. -/
theorem int64?_of_isNumeral {n : Nat} {text : Text} (numeral : IsNumeral n text) :
    int64? text = if n < 0x8000000000000000 then some (n : Int) else none := by
  have read : digits? 10 text = some n := digits?_eq_some_iff.mpr numeral
  have unsigned : int64? text =
      ((digits? 10 text).filter (· < 0x8000000000000000)).map Int.ofNat := by
    -- The first digit is no sign.
    unfold int64?
    split
    · exact absurd (numeral.2.1 '-' (.head _)) (by decide)
    · exact absurd (numeral.2.1 '+' (.head _)) (by decide)
    · rfl
  rw [unsigned, read]
  by_cases fits : n < 0x8000000000000000
  · rw [if_pos fits, Option.filter_some, if_pos (by simpa using fits)]
    rfl
  · rw [if_neg fits, Option.filter_some, if_neg (by simpa using fits)]
    rfl

/-- The text of a number consists of digits. -/
theorem isDigit_of_mem_ofNat {n : Nat} {c : Char} (inside : c ∈ ofNat n) : c.isDigit = true :=
  Nat.isDigit_of_mem_toDigits (by decide) (by decide) inside

/-- The text of a number has no mark. -/
theorem not_mem_ofNat {mark : Char} (other : mark.isDigit = false) (n : Nat) : mark ∉ ofNat n :=
  fun inside => by
    -- Every character of it is a digit.
    rw [isDigit_of_mem_ofNat inside] at other
    cases other

/-- A number below the bound is read back from its text. -/
theorem natBelow?_ofNat {bound n : Nat} (small : n < bound) :
    natBelow? bound (ofNat n) = some n := by
  have digits : ∀ c ∈ ofNat n, c.isDigit = true := fun c inside => isDigit_of_mem_ofNat inside
  have other : (ofNat n).head? ≠ some '+' := fun plus => by
    exact absurd (digits '+' (List.mem_of_head? plus)) (by decide)
  -- There is a digit at least, and all of them together are the number.
  have read : digits? 10 (ofNat n) = some n :=
    digits?_eq_some_iff.mpr ⟨Nat.toDigits_ne_nil, digits, Nat.ofDigitChars_ten_toDigits⟩
  rw [natBelow?_of_no_plus other, read]
  simp [small]

end RelyingParty.Text
