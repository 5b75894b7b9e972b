import Mathlib.Algebra.Order.Field.Power
import Mathlib.Algebra.Order.Ring.Abs
import Mathlib.Data.Rat.Cast.Order
import Mathlib.Tactic.FieldSimp
import Mathlib.Tactic.Linarith
import Mathlib.Tactic.NormNum
import Mathlib.Tactic.Positivity
import Mathlib.Tactic.Ring
import RelyingParty.Number.Decimal

/-! The exact values of floating-point numbers. The total order of the bits does not descend in
value, one decimal place is the nearest number of tenths, and the tenths up to one have numbers that
are nearest to them. -/

namespace RelyingParty

/-- Whether a natural number is nearest to a value; of two that are as near it is the even one. -/
def IsNearestNat (value : ℚ) (n : ℕ) : Prop :=
  |value - n| ≤ 1 / 2 ∧ (|value - n| = 1 / 2 → Even n)

/-- Of two neighbours only one is nearest to a value. -/
theorem IsNearestNat.not_succ {value : ℚ} {n : ℕ} (first : IsNearestNat value n) :
    ¬IsNearestNat value (n + 1) := by
  intro second
  obtain ⟨near, even⟩ := first
  obtain ⟨near', even'⟩ := second
  rw [abs_le] at near near'
  push_cast at near'
  -- The value could only be halfway between them, but one of them is odd.
  have half : value - n = 1 / 2 := by linarith
  have half' : value - (n + 1 : ℕ) = -(1 / 2) := by push_cast; linarith
  have first := even (by rw [half]; norm_num)
  have second := even' (by rw [half']; norm_num)
  rw [Nat.even_add_one] at second
  exact second first

/-- Only one natural number is nearest to a value. -/
theorem IsNearestNat.unique {value : ℚ} {m n : ℕ} (first : IsNearestNat value m)
    (second : IsNearestNat value n) : m = n := by
  have near := first.1
  have near' := second.1
  rw [abs_le] at near near'
  -- Both are at most half a unit away, so they are neighbours if they are apart at all.
  have upper : (m : ℚ) ≤ n + 1 := by linarith
  have lower : (n : ℚ) ≤ m + 1 := by linarith
  norm_cast at upper lower
  by_contra apart
  rcases Nat.lt_or_gt_of_ne apart with less | less
  · obtain rfl : n = m + 1 := by omega
    exact first.not_succ second
  · obtain rfl : m = n + 1 := by omega
    exact second.not_succ first

/-- A quotient is rounded to the nearest natural number. -/
theorem isNearestNat_roundHalfEven (numerator : ℕ) {denominator : ℕ} (positive : 0 < denominator) :
    IsNearestNat (numerator / denominator) (roundHalfEven numerator denominator) := by
  have whole := Nat.div_add_mod numerator denominator
  have short := Nat.mod_lt numerator positive
  unfold roundHalfEven
  generalize numerator / denominator = quotient at whole ⊢
  generalize numerator % denominator = rest at whole short ⊢
  have positive' : (0 : ℚ) < denominator := by exact_mod_cast positive
  -- The value is the quotient and the part of a unit that the remainder makes.
  have value : (numerator : ℚ) / denominator = quotient + rest / denominator := by
    rw [← whole]
    push_cast
    field_simp
  have least : (0 : ℚ) ≤ rest / denominator := by positivity
  have most : (rest : ℚ) / denominator < 1 := by
    rw [div_lt_one positive']
    exact_mod_cast short
  have half : 2 * rest = denominator → (rest : ℚ) / denominator = 1 / 2 := by
    intro tie
    rw [div_eq_iff positive'.ne', ← tie]
    push_cast
    ring
  rw [value]
  unfold IsNearestNat
  dsimp only
  split
  · -- Below the half the quotient is nearer.
    rename_i below
    have less : (rest : ℚ) / denominator < 1 / 2 := by
      rw [div_lt_iff₀ positive']
      have below' : 2 * (rest : ℚ) < denominator := by exact_mod_cast below
      linarith
    rw [add_sub_cancel_left, abs_of_nonneg least]
    exact ⟨less.le, fun tie => absurd tie less.ne⟩
  split
  · -- Above it the next number is.
    rename_i above
    have more : 1 / 2 < (rest : ℚ) / denominator := by
      rw [lt_div_iff₀ positive']
      have above' : (denominator : ℚ) < 2 * rest := by exact_mod_cast above
      linarith
    have distance : |(quotient : ℚ) + rest / denominator - (quotient + 1 : ℕ)| =
        1 - rest / denominator := by
      push_cast
      rw [abs_of_nonpos (by linarith)]
      ring
    rw [distance]
    exact ⟨by linarith, fun tie => by linarith⟩
  -- At the half both are as near, and the even one is taken.
  have tie := half (by omega)
  split
  · rename_i even
    rw [tie, add_sub_cancel_left]
    exact ⟨by norm_num, fun _ => Nat.even_iff.mpr even⟩
  · rename_i odd
    have distance : (quotient : ℚ) + 1 / 2 - (quotient + 1 : ℕ) = -(1 / 2) := by
      push_cast
      ring
    rw [tie, distance]
    exact ⟨by norm_num, fun _ => Nat.even_iff.mpr (by omega)⟩

/-- The number that a quotient is rounded to is the one that is nearest. -/
theorem roundHalfEven_eq_iff {numerator denominator n : ℕ} (positive : 0 < denominator) :
    roundHalfEven numerator denominator = n ↔ IsNearestNat (numerator / denominator) n := by
  -- Only one number is the nearest by these rules.
  constructor
  · rintro rfl
    exact isNearestNat_roundHalfEven numerator positive
  · exact (isNearestNat_roundHalfEven numerator positive).unique

namespace Binary64

/-- To divide by a power of two is to multiply by its inverse. -/
theorem div_power (n exponent : ℕ) :
    (n : ℚ) / (Nat.pow 2 exponent : ℕ) = n * 2 ^ (-(exponent : ℤ)) := by
  rw [zpow_neg, zpow_natCast, ← div_eq_mul_inv, Nat.pow_eq, Nat.cast_pow, Nat.cast_ofNat]

/-- The whole number of units in the last place that a magnitude has. -/
def significand (magnitude : ℕ) : ℕ :=
  if magnitude / 0x10000000000000 = 0 then magnitude % 0x10000000000000
  else 0x10000000000000 + magnitude % 0x10000000000000

/-- The exponent of the unit in the last place. -/
def unitExponent (magnitude : ℕ) : ℤ := (max (magnitude / 0x10000000000000) 1 : ℕ) - 1075

/-- The exact value of a finite magnitude. -/
def magnitudeValue (magnitude : ℕ) : ℚ := (ratio magnitude).1 / (ratio magnitude).2

/-- A value is a whole number of units. -/
theorem magnitudeValue_eq (magnitude : ℕ) :
    magnitudeValue magnitude = significand magnitude * 2 ^ unitExponent magnitude := by
  unfold magnitudeValue ratio significand unitExponent
  generalize magnitude / 0x10000000000000 = exponent
  generalize magnitude % 0x10000000000000 = fraction
  -- Subnormal numbers share the unit of the least normal ones.
  by_cases subnormal : exponent = 0
  · have unit : ((max exponent 1 : ℕ) : ℤ) - 1075 = -((1074 : ℕ) : ℤ) := by omega
    rw [if_pos subnormal, if_pos subnormal, unit]
    generalize 1074 = bias
    exact div_power fraction bias
  · -- A normal number has its unit from the exponent, which makes it whole or a fraction.
    rw [if_neg subnormal, if_neg subnormal]
    by_cases large : 1075 ≤ exponent
    · have unit : ((max exponent 1 : ℕ) : ℤ) - 1075 = ((exponent - 1075 : ℕ) : ℤ) := by omega
      rw [if_pos large, unit, zpow_natCast, Nat.cast_mul, Nat.pow_eq, Nat.cast_pow, Nat.cast_ofNat,
        Nat.cast_one, div_one]
    · have unit : ((max exponent 1 : ℕ) : ℤ) - 1075 = -((1075 - exponent : ℕ) : ℤ) := by omega
      rw [if_neg large, unit]
      exact div_power _ _

/-- A power of two is not zero. -/
theorem power_positive (exponent : ℕ) : 0 < Nat.pow 2 exponent := Nat.two_pow_pos exponent

/-- The denominator of a value is not zero. -/
theorem ratio_positive (magnitude : ℕ) : 0 < (ratio magnitude).2 := by
  -- In all three cases it is one or a power of two.
  unfold ratio
  generalize 1074 = bias
  dsimp only
  split
  · exact power_positive bias
  split
  · exact Nat.one_pos
  · exact power_positive _

/-- Greater magnitudes have greater values. -/
theorem strictMono_magnitudeValue : StrictMono magnitudeValue := by
  apply strictMono_nat_of_lt_succ
  intro magnitude
  rw [magnitudeValue_eq, magnitudeValue_eq]
  by_cases same : unitExponent (magnitude + 1) = unitExponent magnitude
  · -- With one unit the significand is one more.
    have more : significand magnitude < significand (magnitude + 1) := by
      unfold significand unitExponent at *
      split <;> split <;> omega
    rw [same]
    have more' : (significand magnitude : ℚ) < significand (magnitude + 1) := by exact_mod_cast more
    have positive : (0 : ℚ) < 2 ^ unitExponent magnitude := by positivity
    nlinarith
  · -- The next exponent begins, with the least significand and a unit that is twice as large.
    have next : unitExponent (magnitude + 1) = unitExponent magnitude + 1 := by
      unfold unitExponent at *
      omega
    have more : significand magnitude < significand (magnitude + 1) * 2 := by
      unfold significand unitExponent at *
      split <;> split <;> omega
    have more' : (significand magnitude : ℚ) < significand (magnitude + 1) * 2 := by
      exact_mod_cast more
    have positive : (0 : ℚ) < 2 ^ unitExponent magnitude := by positivity
    rw [next, zpow_add_one₀ (by norm_num)]
    nlinarith

/-- The magnitude of zero has the value zero. -/
theorem magnitudeValue_zero : magnitudeValue zero.magnitude = 0 := by
  simp [magnitudeValue_eq, significand, zero]

/-- The magnitude of one has the value one. -/
theorem magnitudeValue_one : magnitudeValue one.magnitude = 1 := by
  norm_num [magnitudeValue_eq, significand, unitExponent, one]

/-- No value of a magnitude is below zero. -/
theorem magnitudeValue_nonneg (magnitude : ℕ) : 0 ≤ magnitudeValue magnitude := by
  unfold magnitudeValue
  positivity

/-- The exact value of a finite number. -/
def value (x : Binary64) : ℚ :=
  if x.negative then -magnitudeValue x.magnitude else magnitudeValue x.magnitude

/-- Zero has the value zero. -/
theorem value_zero : zero.value = 0 := magnitudeValue_zero

/-- One has the value one. -/
theorem value_one : one.value = 1 := magnitudeValue_one

/-- A number without a sign has the value of its magnitude. -/
theorem value_of_unsigned {x : Binary64} (unsigned : x.negative = false) :
    x.value = magnitudeValue x.magnitude := by
  rw [value, unsigned]
  rfl

/-- A number with a sign has no value above zero. -/
theorem value_of_negative {x : Binary64} (negative : x.negative = true) : x.value ≤ 0 := by
  rw [value, if_pos negative]
  linarith [magnitudeValue_nonneg x.magnitude]

/-- What is above zero has no sign. -/
theorem unsigned_of_pos {x : Binary64} (positive : 0 < x.value) : x.negative = false := by
  -- With a sign it would not be above zero.
  rw [← Bool.not_eq_true]
  intro negative
  exact absurd (value_of_negative negative) (not_le.mpr positive)

/-- Every pattern has a place of its own in the total order. -/
theorem rank_injective : Function.Injective rank := by
  -- Patterns with a sign have negative places, and the others have all the rest.
  rintro ⟨negative, magnitude⟩ ⟨negative', magnitude'⟩ same
  cases negative <;> cases negative' <;> simp [rank] at same ⊢ <;> omega

/-- In the total order values do not descend. -/
theorem value_le_of_rank_le {x y : Binary64} (order : x.rank ≤ y.rank) : x.value ≤ y.value := by
  -- With one sign the magnitudes decide, and with two signs zero stands between the values.
  obtain ⟨negative, magnitude⟩ := x
  obtain ⟨negative', magnitude'⟩ := y
  have low := magnitudeValue_nonneg magnitude
  have low' := magnitudeValue_nonneg magnitude'
  cases negative <;> cases negative' <;> simp [rank, value] at order ⊢
  · exact strictMono_magnitudeValue.monotone order
  · omega
  · linarith
  · exact strictMono_magnitudeValue.monotone order

/-- Among numbers without a sign values ascend. -/
theorem value_lt_of_rank_lt {x y : Binary64} (unsigned : x.negative = false)
    (unsigned' : y.negative = false) (order : x.rank < y.rank) : x.value < y.value := by
  -- Without a sign the place is the magnitude.
  rw [value_of_unsigned unsigned, value_of_unsigned unsigned']
  apply strictMono_magnitudeValue
  simpa [rank, unsigned, unsigned'] using order

/-- Only the zeros have the value zero. -/
theorem isZero_iff {x : Binary64} : x.isZero = true ↔ x.value = 0 := by
  -- The magnitude of zero is the only one with the value zero, whatever the sign.
  have zeros : magnitudeValue x.magnitude = 0 ↔ x.magnitude = 0 := by
    rw [← magnitudeValue_zero, strictMono_magnitudeValue.injective.eq_iff]
    rfl
  unfold value isZero
  rw [decide_eq_true_eq, ← zeros]
  split
  · exact neg_eq_zero.symm
  · rfl

/-- A number is greater than zero and at most one when its value is. -/
theorem isPositiveUnit_iff {x : Binary64} :
    x.isPositiveUnit = true ↔ 0 < x.value ∧ x.value ≤ 1 := by
  -- A number with a sign is not above zero, whichever way it is asked.
  cases sign : x.negative with
  | true =>
    have low := value_of_negative sign
    simp only [isPositiveUnit, sign, Bool.not_true, Bool.false_and, Bool.false_eq_true, false_iff,
      not_and]
    intro above
    linarith
  | false =>
    rw [value_of_unsigned sign, ← magnitudeValue_zero, ← magnitudeValue_one,
      strictMono_magnitudeValue.lt_iff_lt, strictMono_magnitudeValue.le_iff_le]
    simp [isPositiveUnit, sign, zero]

/-- One decimal place of a number is nearest to ten times its value. -/
theorem tenths_eq_iff {x : Binary64} (unsigned : x.negative = false) {n : ℕ} :
    x.tenths = n ↔ IsNearestNat (10 * x.value) n := by
  -- The rounded quotient is that of ten times the value.
  have positive : 0 < (ratio x.magnitude).2 := ratio_positive x.magnitude
  have scaled : 10 * x.value =
      ((ratio x.magnitude).1 * 10 : ℕ) / ((ratio x.magnitude).2 : ℚ) := by
    rw [value_of_unsigned unsigned, magnitudeValue, Nat.cast_mul, Nat.cast_ofNat]
    ring
  rw [scaled, ← roundHalfEven_eq_iff positive]
  rfl

/-- Whether a number without a sign is nearest to a value among the finite numbers. -/
structure IsNearest (x : Binary64) (value : ℚ) : Prop where
  unsigned : x.negative = false
  finite : x.isFinite = true
  nearest : ∀ y : Binary64, y.isFinite = true → |x.value - value| ≤ |y.value - value|

/-- Of two values the one on the side of a third that is not beyond halfway is as near to it. -/
theorem abs_sub_le_of_halfway {x y value : ℚ}
    (halfway : x ≤ y ∧ 2 * value ≤ x + y ∨ y ≤ x ∧ x + y ≤ 2 * value) :
    |x - value| ≤ |y - value| := by
  -- In either direction the distance of the nearer one is a difference without its sign.
  have up := le_abs_self (y - value)
  have down := neg_abs_le (y - value)
  rw [abs_le]
  rcases halfway with ⟨order, half⟩ | ⟨order, half⟩
  · constructor <;> linarith
  · constructor <;> linarith

/-- Whether a value lies between the halves of the ways from a magnitude to its neighbours. -/
def IsHalfwayAt (value : ℚ) (magnitude : ℕ) : Prop :=
  2 * value ≤ magnitudeValue magnitude + magnitudeValue (magnitude + 1) ∧
    (magnitude = 0 → 0 ≤ value) ∧
    (magnitude ≠ 0 → magnitudeValue magnitude + magnitudeValue (magnitude - 1) ≤ 2 * value)

instance (value : ℚ) (magnitude : ℕ) : Decidable (IsHalfwayAt value magnitude) :=
  inferInstanceAs (Decidable (_ ∧ (magnitude = 0 → _) ∧ (magnitude ≠ 0 → _)))

/-- What is not above the neighbour below is further away. -/
theorem IsHalfwayAt.lower {value x : ℚ} {magnitude : ℕ} (between : IsHalfwayAt value magnitude)
    (low : x ≤ 0 ∨ magnitude ≠ 0 ∧ x ≤ magnitudeValue (magnitude - 1)) :
    x ≤ magnitudeValue magnitude ∧ magnitudeValue magnitude + x ≤ 2 * value := by
  obtain ⟨_, whenZero, whenNot⟩ := between
  by_cases none : magnitude = 0
  · -- Only what is not above zero lies below zero.
    have low : x ≤ 0 := low.resolve_right fun other => other.1 none
    have least := whenZero none
    have own : magnitudeValue magnitude = 0 := none ▸ magnitudeValue_zero
    rw [own]
    constructor <;> linarith
  · -- The neighbour below is halfway at most, and what is not above it is no nearer.
    have half := whenNot none
    have step : magnitudeValue (magnitude - 1) < magnitudeValue magnitude :=
      strictMono_magnitudeValue (by omega)
    have least := magnitudeValue_nonneg (magnitude - 1)
    have low : x ≤ magnitudeValue (magnitude - 1) := by
      rcases low with low | ⟨_, low⟩
      · exact low.trans least
      · exact low
    constructor <;> linarith

/-- A magnitude is nearest to a value between the halves of the ways to its neighbours. -/
theorem IsHalfwayAt.isNearest {value : ℚ} {magnitude : ℕ} (between : IsHalfwayAt value magnitude)
    (finite : magnitude < infiniteMagnitude) : IsNearest ⟨false, magnitude⟩ value := by
  refine ⟨rfl, decide_eq_true finite, fun y _ => ?_⟩
  rw [value_of_unsigned rfl]
  dsimp only
  -- Another number lies below the neighbour below, above the one above, or is the same.
  cases sign : y.negative with
  | true => exact abs_sub_le_of_halfway (.inr (between.lower (.inl (value_of_negative sign))))
  | false =>
    rw [value_of_unsigned sign]
    rcases Nat.lt_trichotomy y.magnitude magnitude with less | same | greater
    · have low : magnitudeValue y.magnitude ≤ magnitudeValue (magnitude - 1) :=
        strictMono_magnitudeValue.monotone (by omega)
      exact abs_sub_le_of_halfway (.inr (between.lower (.inr ⟨by omega, low⟩)))
    · rw [same]
    · -- A greater number is at least the neighbour above, and the value is within half of the way
      -- to that.
      have next : magnitudeValue (magnitude + 1) ≤ magnitudeValue y.magnitude :=
        strictMono_magnitudeValue.monotone greater
      have step : magnitudeValue magnitude < magnitudeValue (magnitude + 1) :=
        strictMono_magnitudeValue (Nat.lt_succ_self magnitude)
      have half := between.1
      exact abs_sub_le_of_halfway (.inl ⟨by linarith, by linarith⟩)

/-- The tenths up to one have the numbers that are nearest to them. -/
theorem isNearest_ofRatio {n : ℕ} (small : n ≤ 10) : IsNearest (ofRatio false n 10) (n / 10) := by
  -- Each of the eleven magnitudes is tried against the halves of the ways to its neighbours.
  have each : ∀ n : ℕ, n ≤ 10 → nearestMagnitude n 10 < infiniteMagnitude ∧
      IsHalfwayAt (n / 10) (nearestMagnitude n 10) := by
    decide +kernel
  obtain ⟨finite, between⟩ := each n small
  exact between.isNearest finite

end Binary64

end RelyingParty
