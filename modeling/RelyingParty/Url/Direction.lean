import RelyingParty.Text.Quoted
import RelyingParty.Text.Word

/-! Names that are partly read from right to left keep one direction in each label, as RFC 5893
says. -/

namespace RelyingParty

/-- How a character takes part in the direction of a text. -/
inductive Direction where
  | left
  | right
  | digit
  | arabicDigit
  | mark
  | neutral
  deriving DecidableEq, Repr

namespace Direction

/-- Runs of characters that are read from right to left, some with digits and marks among them. -/
def rightRuns : List (Nat × Nat) :=
  [(0x5BE, 0x5F4), (0x608, 0x608), (0x60B, 0x60B), (0x60D, 0x60D), (0x61B, 0x64A), (0x66D, 0x6D5),
    (0x6E5, 0x6E6), (0x6EE, 0x6EF), (0x6FA, 0x7F5), (0x7FA, 0x8C9), (0xFB1D, 0xFB28),
    (0xFB2A, 0xFD3D), (0xFD50, 0xFDC7), (0xFDF0, 0xFDFC), (0xFE70, 0xFEFC), (0x10800, 0x1091B),
    (0x10920, 0x10B35), (0x10B40, 0x10D23), (0x10D4A, 0x10D65), (0x10D6F, 0x10D8F),
    (0x10E80, 0x10FF6), (0x1E800, 0x1EEBB)]

/-- Runs of digits that are read with right-to-left text. -/
def arabicDigitRuns : List (Nat × Nat) :=
  [(0x660, 0x669), (0x66B, 0x66C), (0x10D30, 0x10D39), (0x10D40, 0x10D49), (0x10E60, 0x10E7E)]

/-- Runs of digits outside ASCII that are read as those of ASCII. -/
def digitRuns : List (Nat × Nat) :=
  [(0xB2, 0xB3), (0xB9, 0xB9), (0x6F0, 0x6F9), (0x2070, 0x2070), (0x2074, 0x2079),
    (0x2080, 0x2089), (0x102E1, 0x102FB), (0x1D7CE, 0x1D7FF), (0x1FBF0, 0x1FBF9)]

/-- The direction of a character. -/
def ofChar (c : Char) : Direction :=
  if c.isAlpha then left
  else if c.isDigit || Text.isWithin digitRuns c then digit
  else if c.toNat < 128 then neutral
  else if Text.isWithin arabicDigitRuns c then arabicDigit
  else if !Text.isVisible c then mark
  else if Text.isWithin rightRuns c then right
  else if Text.isWordChar c then left
  else neutral

/-- Whether a direction makes a name one that is partly read from right to left. -/
def isRightward (direction : Direction) : Bool := direction = right || direction = arabicDigit

/-- The last direction of a label that is not a mark's. -/
def ending (label : List Direction) : Option Direction :=
  (label.reverse.dropWhile (· = mark)).head?

/-- Whether a label keeps the direction of its first character, which has to have one. -/
def isKept (label : List Direction) : Bool :=
  match label with
  | [] => true
  | left :: rest => !rest.any isRightward && [some left, some digit].contains (ending label)
  | right :: rest =>
    !rest.contains left && [some right, some digit, some arabicDigit].contains (ending label)
      -- A label that is read from the right may not mix both kinds of digits.
      && !(rest.contains digit && rest.contains arabicDigit)
  | _ => false

/-- Whether the labels of a name may stand together. -/
def areOrderly (labels : List Text) : Bool :=
  let directions := labels.map (·.map ofChar)
  !directions.any (·.any isRightward) || directions.all isKept

end Direction

end RelyingParty
