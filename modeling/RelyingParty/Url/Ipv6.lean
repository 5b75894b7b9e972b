import RelyingParty.Text

/-! IPv6 addresses, as eight numbers of sixteen bits. -/

namespace RelyingParty.Ipv6

/-- The value of up to four hexadecimal digits. -/
def piece? (text : Text) : Option Nat := if text.length ≤ 4 then Text.digits? 16 text else none

/-- The value of a decimal number below 256 without leading zeros. -/
def octet? (text : Text) : Option Nat :=
  if text.length ≤ 1 ∨ text.head? ≠ some '0' then (Text.digits? 10 text).filter (· < 256) else none

/-- The two pieces of four decimal numbers. -/
def dotted? (text : Text) : Option (List Nat) :=
  match (Text.splitAll '.' text).map octet? with
  | [some a, some b, some c, some d] => some [a * 256 + b, c * 256 + d]
  | _ => none

/-- The pieces between colons, the last of which may be four decimal numbers. -/
def piecesOf? (mayEndDotted : Bool) : List Text → Option (List Nat)
  | [] => some []
  | [last] =>
    match piece? last with
    | some piece => some [piece]
    | none => if mayEndDotted then dotted? last else none
  | part :: rest => do return (← piece? part) :: (← piecesOf? mayEndDotted rest)

/-- The pieces of one side of a double colon. -/
def side? (mayEndDotted : Bool) (text : Text) : Option (List Nat) :=
  if text = [] then some [] else piecesOf? mayEndDotted (Text.splitAll ':' text)

/-- Reads an address; a double colon stands for one or more zeros. -/
def parse? (text : Text) : Option (List Nat) := do
  match Text.splitAt? "::" text with
  | none =>
    let pieces ← side? true text
    if pieces.length = 8 then return pieces else none
  | some (left, right) =>
    let head ← side? false left
    let tail ← side? true right
    let known := head.length + tail.length
    -- The colons stand for at least one piece.
    if known < 8 then return head ++ List.replicate (8 - known) 0 ++ tail else none

/-- The number of zeros at the start. -/
def zeros (pieces : List Nat) : Nat := (pieces.takeWhile (· = 0)).length

/-- Where the longest run of zeros begins, the first of several. -/
def longestRun (pieces : List Nat) : Nat :=
  (List.range pieces.length).foldl
    (fun best index => if zeros (pieces.drop best) < zeros (pieces.drop index) then index else best)
    0

/-- Pieces in hexadecimal between colons. -/
def renderPieces (pieces : List Nat) : Text :=
  List.intercalate [':'] (pieces.map (Nat.toDigits 16))

/-- An address, with a double colon for the longest run of zeros unless it is only one. -/
def render (pieces : List Nat) : Text :=
  let start := longestRun pieces
  let count := zeros (pieces.drop start)
  if count < 2 then renderPieces pieces
  else renderPieces (pieces.take start) ++ "::" ++ renderPieces (pieces.drop (start + count))

end RelyingParty.Ipv6
