import RelyingParty.Text

/-! Binary floating-point numbers of 64 bits, as a sign and a magnitude, with exact rounding. -/

namespace RelyingParty

/-- A sign and the 63 bits below it; the bits of finite numbers are ordered as their values. -/
structure Binary64 where
  negative : Bool
  magnitude : Nat
  deriving DecidableEq, Repr

/-- The quotient rounded to the nearest natural number, a half to the even neighbour. -/
def roundHalfEven (numerator denominator : Nat) : Nat :=
  let quotient := numerator / denominator
  let twice := 2 * (numerator % denominator)
  -- Below a half, above it, or the tie.
  if twice < denominator then quotient
  else if denominator < twice then quotient + 1
  else if quotient % 2 = 0 then quotient
  else quotient + 1

namespace Binary64

/-- The magnitude of the infinities; greater ones are not numbers. -/
def infiniteMagnitude : Nat := 0x7FF0000000000000

/-- The positive quiet pattern that is not a number. -/
def notANumber : Binary64 := ⟨false, 0x7FF8000000000000⟩

/-- Positive infinity. -/
def infinity : Binary64 := ⟨false, infiniteMagnitude⟩

/-- Positive zero. -/
def zero : Binary64 := ⟨false, 0⟩

/-- One. -/
def one : Binary64 := ⟨false, 0x3FF0000000000000⟩

/-- Whether the pattern is not a number. -/
def isNaN (x : Binary64) : Bool := infiniteMagnitude < x.magnitude

/-- Whether the pattern is a finite number. -/
def isFinite (x : Binary64) : Bool := x.magnitude < infiniteMagnitude

/-- The 64 bits of a pattern. -/
def toBits (x : Binary64) : Nat := (if x.negative then 0x8000000000000000 else 0) + x.magnitude

/-- The exponent of the greatest power of two that a positive quotient reaches. -/
def floorLog2 (numerator denominator : Nat) : Int :=
  -- The difference of both logarithms is the exponent or one more than it.
  let guess : Int := (Nat.log2 numerator : Int) - Nat.log2 denominator
  let reached :=
    if 0 ≤ guess then denominator * Nat.pow 2 guess.toNat ≤ numerator
    else denominator ≤ numerator * Nat.pow 2 (-guess).toNat
  if reached then guess else guess - 1

/-- The magnitude nearest to a quotient, halves to even, with quotients out of range infinite. -/
def nearestMagnitude (numerator denominator : Nat) : Nat :=
  if numerator = 0 then 0
  else
    -- The unit of the last place: 52 places below the leading bit, or the least of all.
    let unit := max (floorLog2 numerator denominator - 52) (-1074)
    let significand :=
      if 0 ≤ unit then roundHalfEven numerator (denominator * Nat.pow 2 unit.toNat)
      else roundHalfEven (numerator * Nat.pow 2 (-unit).toNat) denominator
    min infiniteMagnitude ((unit + 1074).toNat * 0x10000000000000 + significand)

/-- The number nearest to a quotient of natural numbers. -/
def ofRatio (negative : Bool) (numerator denominator : Nat) : Binary64 :=
  ⟨negative, nearestMagnitude numerator denominator⟩

/-- The exact value of a finite magnitude as a quotient. -/
def ratio (magnitude : Nat) : Nat × Nat :=
  let exponent := magnitude / 0x10000000000000
  let fraction := magnitude % 0x10000000000000
  -- Subnormal numbers have no leading one and share the exponent of the least normal ones.
  if exponent = 0 then (fraction, Nat.pow 2 1074)
  else if 1075 ≤ exponent then ((0x10000000000000 + fraction) * Nat.pow 2 (exponent - 1075), 1)
  else (0x10000000000000 + fraction, Nat.pow 2 (1075 - exponent))

/-- Whether the value is a zero of either sign. -/
def isZero (x : Binary64) : Bool := x.magnitude = 0

/-- The place of a pattern in the total order that puts negative patterns first. -/
def rank (x : Binary64) : Int :=
  if x.negative then -(x.magnitude : Int) - 1 else x.magnitude

/-- Whether a number is greater than zero and at most one. -/
def isPositiveUnit (x : Binary64) : Bool :=
  !x.negative && 0 < x.magnitude && x.magnitude ≤ one.magnitude

/-- The greater of two numbers; a pattern that is not a number yields to the other one. -/
def maximum (x y : Binary64) : Binary64 :=
  if x.isNaN then y
  else if y.isNaN then x
  else if x.rank < y.rank then y
  else x

/-- The number rounded to the nearest integer, a half to the even neighbour, or infinity when it is
out of range. -/
def ofNat (n : Nat) : Binary64 := ofRatio false n 1

/-- The product of two finite numbers, rounded. -/
def mul (x y : Binary64) : Binary64 :=
  let a := ratio x.magnitude
  let b := ratio y.magnitude
  ofRatio (x.negative != y.negative) (a.1 * b.1) (a.2 * b.2)

/-- The quotient of two finite numbers, the second not zero, rounded. -/
def div (x y : Binary64) : Binary64 :=
  let a := ratio x.magnitude
  let b := ratio y.magnitude
  ofRatio (x.negative != y.negative) (a.1 * b.2) (a.2 * b.1)

end Binary64

end RelyingParty
