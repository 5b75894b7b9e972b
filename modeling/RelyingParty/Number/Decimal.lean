import RelyingParty.Number.Binary64

/-! Decimal numerals of floating-point numbers: reading to nearest, and the fewest digits that read
back. -/

namespace RelyingParty

/-- A decimal number: its digits as a natural number, scaled by a power of ten. -/
structure Decimal where
  digits : Nat
  exponent : Int
  deriving DecidableEq, Repr

namespace Decimal

/-- How many decimal digits a number has; zero has none. -/
def digitCount (n : Nat) : Nat := if n = 0 then 0 else (Nat.toDigits 10 n).length

/-- The magnitude nearest to a decimal; far out of range nothing is computed. -/
def magnitude (d : Decimal) : Nat :=
  let point := d.exponent + digitCount d.digits
  -- The text chooses the exponent, so the powers below have to be kept small.
  if d.digits = 0 ∨ point < -400 then 0
  else if 400 < point then Binary64.infiniteMagnitude
  else if 0 ≤ d.exponent then Binary64.nearestMagnitude (d.digits * Nat.pow 10 d.exponent.toNat) 1
  else Binary64.nearestMagnitude d.digits (Nat.pow 10 (-d.exponent).toNat)

/-- The digits at the front of a text and what follows them. -/
def spanDigits (text : Text) : Text × Text := text.span Char.isDigit

/-- The value of a run of digits. -/
def runValue (run : Text) : Nat := run.foldl (fun value c => value * 10 + (c.toNat - '0'.toNat)) 0

/-- An exponent part, absent or a letter, an optional sign and digits. -/
def exponent? : Text → Option Int
  | [] => some 0
  | mark :: rest =>
    if mark = 'e' ∨ mark = 'E' then
      match rest with
      | '-' :: run => (Text.digits? 10 run).map fun n => -(n : Int)
      | '+' :: run => (Text.digits? 10 run).map fun n => (n : Int)
      | run => (Text.digits? 10 run).map fun n => (n : Int)
    else none

/-- An unsigned decimal numeral: digits with an optional point, a digit on at least one side, and
an optional exponent. -/
def parse? (text : Text) : Option Decimal := do
  let (whole, rest) := spanDigits text
  let (fraction, rest) :=
    match rest with
    | '.' :: rest => spanDigits rest
    | _ => ([], rest)
  -- A point alone is no numeral.
  if whole = [] ∧ fraction = [] then none
  let exponent ← exponent? rest
  return ⟨runValue (whole ++ fraction), exponent - fraction.length⟩

end Decimal

namespace Binary64

/-- A numeral without its sign: a word for infinity or for no number in any case, or a decimal. -/
def unsigned? (text : Text) : Option Nat :=
  let word := Text.asciiLower text
  if word = "inf" ∨ word = "infinity" then some infiniteMagnitude
  else if word = "nan" then some notANumber.magnitude
  else (Decimal.parse? text).map Decimal.magnitude

/-- The number nearest to a numeral with an optional sign. -/
def parse? (text : Text) : Option Binary64 :=
  match text with
  | '-' :: rest => (unsigned? rest).map fun magnitude => ⟨true, magnitude⟩
  | '+' :: rest => (unsigned? rest).map fun magnitude => ⟨false, magnitude⟩
  | _ => (unsigned? text).map fun magnitude => ⟨false, magnitude⟩

/-- The exponent of the least power of ten above a positive quotient. -/
def decimalPoint (numerator denominator : Nat) : Int :=
  if denominator ≤ numerator then Decimal.digitCount (numerator / denominator)
  else
    -- The inverse exceeds a power of ten exactly when its ceiling less one reaches that power.
    1 - (Decimal.digitCount ((denominator - 1) / numerator) : Int)

/-- The two neighbours of a quotient on the grid of multiples of a power of ten. -/
def gridNeighbours (numerator denominator : Nat) (exponent : Int) : Decimal × Decimal :=
  let below :=
    if 0 ≤ exponent then numerator / (denominator * Nat.pow 10 exponent.toNat)
    else numerator * Nat.pow 10 (-exponent).toNat / denominator
  (⟨below, exponent⟩, ⟨below + 1, exponent⟩)

/-- Whether the lower neighbour on a grid is at least as near as the upper one; a tie goes to the
even neighbour. -/
def lowerIsNearer (numerator denominator : Nat) (lower : Decimal) : Bool :=
  let (scaledNumerator, scaledDenominator) :=
    if 0 ≤ lower.exponent then (numerator, denominator * Nat.pow 10 lower.exponent.toNat)
    else (numerator * Nat.pow 10 (-lower.exponent).toNat, denominator)
  -- The neighbours are one step of the grid apart, so half a step decides.
  let twice := 2 * (scaledNumerator - lower.digits * scaledDenominator)
  twice < scaledDenominator || (twice == scaledDenominator && lower.digits % 2 == 0)

/-- Looks for a decimal that reads back, allowing one more digit on each step. -/
def shortestFrom (magnitude numerator denominator : Nat) (point : Int) : Nat → Nat → Decimal
  | _, 0 => ⟨0, 0⟩
  | digits, steps + 1 =>
    let (lower, upper) := gridNeighbours numerator denominator (point - digits)
    -- Both neighbours may read back, and then the nearer one is written.
    match decide (lower.magnitude = magnitude), decide (upper.magnitude = magnitude) with
    | true, true => if lowerIsNearer numerator denominator lower then lower else upper
    | true, false => lower
    | false, true => upper
    | false, false => shortestFrom magnitude numerator denominator point (digits + 1) steps

/-- The decimal of fewest digits that reads back as a finite positive magnitude, the nearest of
those; seventeen digits always suffice. -/
def shortest (magnitude : Nat) : Decimal :=
  let (numerator, denominator) := ratio magnitude
  shortestFrom magnitude numerator denominator (decimalPoint numerator denominator) 1 17

/-- The fewest digits and the position of the decimal point after them, trailing zeros dropped. -/
def significantDigits (magnitude : Nat) : Text × Int :=
  let decimal := shortest magnitude
  let run := Text.ofNat decimal.digits
  let kept := (run.reverse.dropWhile (· = '0')).reverse
  (kept, decimal.exponent + run.length)

/-- Digits with the decimal point after the given place, without an exponent. -/
def positional (digits : Text) (point : Int) : Text :=
  if point ≤ 0 then ['0', '.'] ++ List.replicate (-point).toNat '0' ++ digits
  else if digits.length ≤ point.toNat then
    digits ++ List.replicate (point.toNat - digits.length) '0'
  else digits.take point.toNat ++ ['.'] ++ digits.drop point.toNat

/-- The fewest digits that read back, never with an exponent. -/
def plainText (x : Binary64) : Text :=
  if x.isNaN then "NaN"
  else
    let unsigned : Text :=
      if x.magnitude = infiniteMagnitude then "inf"
      else if x.magnitude = 0 then "0"
      else
        let (digits, point) := significantDigits x.magnitude
        positional digits point
    -- The sign is written for zero and infinity too.
    if x.negative then '-' :: unsigned else unsigned

/-- Two digits at least, for exponents. -/
def exponentDigits (n : Nat) : Text := if n < 10 then '0' :: Text.ofNat n else Text.ofNat n

/-- The fewest digits that read back, with a decimal point, or with an exponent when the leading
digit stands further than five places behind the point or fifteen before it. -/
def scientificText (x : Binary64) : Text :=
  let unsigned : Text :=
    if x.magnitude = 0 then "0.0"
    else
      let (digits, point) := significantDigits x.magnitude
      let leading := point - 1
      if -5 ≤ leading ∧ leading ≤ 15 then
        let text := positional digits point
        if text.contains '.' then text else text ++ ['.', '0']
      else
        -- A single digit takes no point.
        let mantissa :=
          match digits with
          | first :: second :: rest => first :: '.' :: second :: rest
          | short => short
        let sign := if 0 ≤ leading then '+' else '-'
        mantissa ++ ['e', sign] ++ exponentDigits leading.natAbs
  if x.negative then '-' :: unsigned else unsigned

/-- One decimal place of the exact value of a finite number, a tie to the even digit. -/
def tenths (x : Binary64) : Nat :=
  let (numerator, denominator) := ratio x.magnitude
  roundHalfEven (numerator * 10) denominator

/-- A number of tenths with one decimal place. -/
def tenthsText (n : Nat) : Text := Text.ofNat (n / 10) ++ ['.'] ++ Text.ofNat (n % 10)

end Binary64

end RelyingParty
