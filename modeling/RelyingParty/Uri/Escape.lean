import RelyingParty.Text

/-! Percent triplets in canonical form: unreserved characters decoded, all other triplets in upper
case. -/

namespace RelyingParty.Uri

/-- The characters that never need a percent triplet. -/
def isUnreserved (c : Char) : Bool := c.isAlphanum || c = '.' || c = '_' || c = '~' || c = '-'

/-- The value of the two characters after a percent sign; a plus sign may stand for the first
digit. -/
def tripletValue? (high low : Char) : Option Nat :=
  match Text.digitValue? 16 low with
  | none => none
  | some units =>
    if high = '+' then some units
    else (Text.digitValue? 16 high).map fun sixteens => sixteens * 16 + units

/-- The canonical form of the triplet with the given two characters. -/
def canonicalTriplet? (high low : Char) : Option Text :=
  (tripletValue? high low).map fun value =>
    if isUnreserved (Char.ofNat value) then [Char.ofNat value]
    else ['%', high.toUpper, low.toUpper]

/-- A text with every triplet in canonical form, when every percent sign begins one. -/
def canonicalEscapes? : Text → Option Text
  | [] => some []
  | '%' :: high :: low :: rest => do
    let triplet ← canonicalTriplet? high low
    let tail ← canonicalEscapes? rest
    return triplet ++ tail
  -- A percent sign comes here only when fewer than two characters follow it.
  | c :: rest => if c = '%' then none else (canonicalEscapes? rest).map (c :: ·)

end RelyingParty.Uri
