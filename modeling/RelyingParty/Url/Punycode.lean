import RelyingParty.Text

/-! Punycode writes a label in ASCII: its ASCII characters, and then where the others go. -/

namespace RelyingParty.Punycode

/-- The character of a digit of base 36, letters first. -/
def digitChar (digit : Nat) : Char :=
  if digit < 26 then Char.ofNat ('a'.toNat + digit) else Char.ofNat ('0'.toNat + (digit - 26))

/-- The value of a digit, letters in either case. -/
def digitValue? (c : Char) : Option Nat :=
  if c.isLower then some (c.toNat - 'a'.toNat)
  else if c.isUpper then some (c.toNat - 'A'.toNat)
  else if c.isDigit then some (c.toNat - '0'.toNat + 26)
  else none

/-- The value from which on the digit at a position is not the last one. -/
def threshold (bias position : Nat) : Nat := max 1 (min 26 (position - bias))

/-- The digits of a number from a position on, the least significant first. -/
def digits (bias position number : Nat) : Text :=
  let least := threshold bias position
  -- A digit below the threshold ends a number, any other one goes on with the quotient.
  if number < least then [digitChar number]
  else
    digitChar (least + (number - least) % (36 - least)) ::
      digits bias (position + 36) ((number - least) / (36 - least))
termination_by number
decreasing_by
  have : 1 ≤ threshold bias position := Nat.le_max_left _ _
  have := Nat.div_le_self (number - threshold bias position) (36 - threshold bias position)
  omega

/-- Scales a distance down and sums up the positions that it passes. -/
def settle (bias distance : Nat) : Nat :=
  if 455 < distance then settle (bias + 36) (distance / 35)
  else bias + 36 * distance / (distance + 38)
termination_by distance
decreasing_by omega

/-- The bias after a distance, for a label with a number of characters so far. -/
def adapt (first : Bool) (distance count : Nat) : Nat :=
  let scaled := if first then distance / 700 else distance / 2
  settle 0 (scaled + scaled / count)

/-- The state while a label is written: the distance since the last character that was placed, the
bias, the number of characters placed, and the digits written. -/
structure Writing where
  distance : Nat
  bias : Nat
  placed : Nat
  written : Text

/-- Passes one character of the label while those with a code point are placed. -/
def Writing.pass (first : Bool) (ascii point : Nat) (state : Writing) (c : Char) : Writing :=
  -- Smaller characters are already written and are places that the next one passes.
  if c.toNat < point then { state with distance := state.distance + 1 }
  else if c.toNat = point then
    { distance := 0
      bias := adapt (first && state.placed = ascii) state.distance (state.placed + 1)
      placed := state.placed + 1
      written := state.written ++ digits state.bias 36 state.distance }
  else state

/-- Places the characters of a label in ascending order, from a code point on. -/
def place (label : Text) (ascii reached : Nat) (state : Writing) : (points : List Nat) → Writing
  | [] => state
  | point :: rest =>
    -- Each code point that is passed over counts every place once.
    let start :=
      { state with distance := state.distance + (point - reached) * (state.placed + 1) }
    let passed := label.foldl (Writing.pass true ascii point) start
    place label ascii (point + 1) { passed with distance := passed.distance + 1 } rest

/-- Inserts a code point into an ascending list that holds each one once. -/
def insertPoint (point : Nat) : List Nat → List Nat
  | [] => [point]
  | other :: rest =>
    if point < other then point :: other :: rest
    else if point = other then other :: rest
    else other :: insertPoint point rest

/-- Writes a label. -/
def encode (label : Text) : Text :=
  let ascii := label.filter (·.toNat < 128)
  let points := (label.filter (128 ≤ ·.toNat)).foldr (fun c points => insertPoint c.toNat points) []
  let start : Writing := ⟨0, 72, ascii.length, []⟩
  -- The ASCII characters come first, and a hyphen closes them.
  (if ascii = [] then [] else ascii ++ ['-']) ++
    (place label ascii.length 128 start points).written

/-- The state while a label is read: its characters so far, the code point and place reached, the
bias, and of the number being read its start, the weight of the next digit and its position. -/
structure Reading where
  label : Text
  point : Nat
  index : Nat
  bias : Nat
  start : Nat
  weight : Nat
  position : Nat

/-- Places the character that a finished number stands for. -/
def Reading.finish? (first : Bool) (state : Reading) : Option Reading :=
  let count := state.label.length + 1
  -- One number gives both: each time it passes the end of the label the code point grows by one.
  let point := state.point + state.index / count
  if h : point.isValidChar then
    let index := state.index % count
    some
      { label := state.label.take index ++ Char.ofNatAux point h :: state.label.drop index
        point
        index := index + 1
        bias := adapt first (state.index - state.start) count
        start := index + 1
        weight := 1
        position := 36 }
  else none

/-- Reads the digits behind the ASCII characters. -/
def readDigits (first : Bool) (state : Reading) : Text → Option Text
  -- The weight grows with the first digit, so the text may not end within a number.
  | [] => if state.weight = 1 then some state.label else none
  | c :: rest => do
    let digit ← digitValue? c
    let least := threshold state.bias state.position
    let state := { state with index := state.index + digit * state.weight }
    if digit < least then readDigits false (← state.finish? first) rest
    else
      readDigits first
        { state with weight := state.weight * (36 - least), position := state.position + 36 } rest

/-- Reads a label. -/
def decode? (text : Text) : Option Text :=
  let (ascii, rest) := (Text.splitLast '-' text).getD ([], text)
  readDigits true ⟨ascii, 128, 0, 72, 0, 1, 36⟩ rest

end RelyingParty.Punycode
