import Mathlib.Data.Nat.Digits.Defs
import RelyingParty.Proofs.Text.Casing

/-! Numbers are read back from their numerals in base ten and sixteen: zeros may stand in front, and
letters may be of either case. -/

namespace RelyingParty.Text

/-- Whether a text is a numeral of a number in a base: its digits, each in either case, behind any
number of zeros. -/
def IsNumeralIn (base n : Nat) (text : Text) : Prop :=
  -- The digits of a number are written in lower case.
  ∃ zeros digits, text = List.replicate zeros '0' ++ digits ∧
    asciiLower digits = Nat.toDigits base n

/-- A digit is read as its value. -/
theorem digitValue?_digitChar {base digit : Nat} (known : base ∈ [10, 16]) (small : digit < base) :
    digitValue? base digit.digitChar = some digit := by
  -- There are ten digits of the one base and sixteen of the other.
  have each : ∀ base ∈ [10, 16], ∀ digit < base, digitValue? base digit.digitChar = some digit := by
    decide
  exact each base known digit small

/-- Digits behind others are read on from the value of those. -/
theorem digitsFrom?_append (base value : Nat) (front back : Text) :
    digitsFrom? base value (front ++ back) =
      (digitsFrom? base value front).bind fun middle => digitsFrom? base middle back := by
  -- The value of the front is carried on, digit by digit.
  induction front generalizing value with
  | nil => rfl
  | cons c front ih =>
    rw [List.cons_append, digitsFrom?, digitsFrom?]
    cases digitValue? base c with
    | none => rfl
    | some digit => exact ih _

/-- Zeros in front of a number do not change it. -/
theorem digitsFrom?_zeros {base : Nat} (known : base ∈ [10, 16]) (zeros : Nat) (text : Text) :
    digitsFrom? base 0 (List.replicate zeros '0' ++ text) = digitsFrom? base 0 text := by
  have positive : 0 < base := by
    rcases List.mem_pair.mp known with rfl | rfl <;> decide
  induction zeros with
  | zero => rfl
  | succ zeros ih =>
    have zero : digitValue? base '0' = some 0 := digitValue?_digitChar known positive
    rw [List.replicate_succ, List.cons_append, digitsFrom?, zero]
    -- The value is still zero behind another zero.
    simpa only [Nat.zero_mul, Nat.add_zero] using ih

/-- A number is read from its digits. -/
theorem digitsFrom?_toDigits {base : Nat} (known : base ∈ [10, 16]) (n : Nat) :
    digitsFrom? base 0 (Nat.toDigits base n) = some n := by
  have large : 1 < base := by
    rcases List.mem_pair.mp known with rfl | rfl <;> decide
  -- The last digit is the remainder, and those in front of it are the digits of the quotient.
  induction n using Nat.strongRecOn with
  | _ n ih =>
    by_cases small : n < base
    · rw [Nat.toDigits_of_lt_base small, digitsFrom?, digitValue?_digitChar known small]
      simp only [Nat.zero_mul, Nat.zero_add, digitsFrom?]
    · have shorter : n / base < n := Nat.div_lt_self (by omega) large
      have last : n % base < base := Nat.mod_lt n (by omega)
      rw [Nat.toDigits_of_base_le large (Nat.le_of_not_lt small), digitsFrom?_append, ih _ shorter,
        Option.bind_some, digitsFrom?, digitValue?_digitChar known last]
      simp only [digitsFrom?, Nat.div_add_mod']

/-- A number is read from each of its numerals. -/
theorem digits?_of_isNumeralIn {base n : Nat} {text : Text} (known : base ∈ [10, 16])
    (numeral : IsNumeralIn base n text) : digits? base text = some n := by
  obtain ⟨zeros, digits, rfl, lower⟩ := numeral
  have read : digitsFrom? base 0 (List.replicate zeros '0' ++ digits) = some n := by
    rw [digitsFrom?_zeros known, ← digitsFrom?_asciiLower known, lower, digitsFrom?_toDigits known]
  have nonempty : List.replicate zeros '0' ++ digits ≠ [] := by
    intro empty
    obtain ⟨_, rfl⟩ := List.append_eq_nil_iff.mp empty
    exact Nat.toDigits_ne_nil lower.symm
  -- A run that is not empty is read from the value zero on.
  cases whole : List.replicate zeros '0' ++ digits with
  | nil => exact absurd whole nonempty
  | cons c rest => rwa [whole] at read

/-- A numeral consists of characters that have a value. -/
theorem isSome_digitValue?_of_isNumeralIn {base n : Nat} {text : Text} (known : base ∈ [10, 16])
    (numeral : IsNumeralIn base n text) :
    ∀ c ∈ text, (digitValue? base c).isSome = true := by
  have read := digits?_of_isNumeralIn known numeral
  cases text with
  | nil => simp
  | cons c rest => exact isSome_digitValue?_of_digitsFrom? read

end RelyingParty.Text
