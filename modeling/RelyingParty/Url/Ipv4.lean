import RelyingParty.Text

/-! IPv4 addresses, of up to four numbers in decimal, octal or hexadecimal. -/

namespace RelyingParty.Ipv4

/-- The value of a number; a leading zero makes it octal, and an x after it hexadecimal. -/
def number? (part : Text) : Option Nat :=
  match part with
  | [] => none
  -- A mark without digits behind it is zero.
  | '0' :: 'x' :: digits => Text.digitsFrom? 16 0 digits
  | '0' :: 'X' :: digits => Text.digitsFrom? 16 0 digits
  | '0' :: digits => Text.digitsFrom? 8 0 digits
  | digits => Text.digits? 10 digits

/-- The parts between points; a point at the end is passed over. -/
def parts (text : Text) : List Text :=
  match (Text.splitAll '.' text).reverse with
  | [] :: earlier => earlier.reverse
  | reversed => reversed.reverse

/-- Whether a name has to be an address, because its last part is a number. -/
def endsInNumber (name : Text) : Bool :=
  match (parts name).getLast? with
  | none => false
  | some last => (last ≠ [] && last.all Char.isDigit) || (number? last).isSome

/-- The address of some numbers, the last of which fills all octets that are left. -/
def ofNumbers? : (octets : Nat) → List Nat → Option Nat
  | octets, [last] => if last < Nat.pow 256 octets then some last else none
  | octets + 1, first :: rest =>
    if first < 256 then (ofNumbers? octets rest).map (first * Nat.pow 256 octets + ·) else none
  | _, _ => none

/-- Reads an address. -/
def parse? (text : Text) : Option Nat := do
  let numbers ← (parts text).mapM number?
  if numbers.length ≤ 4 then ofNumbers? 4 numbers else none

/-- An address as four decimal numbers. -/
def render (address : Nat) : Text :=
  List.intercalate ['.']
    ([3, 2, 1, 0].map fun octet => Text.ofNat (address / Nat.pow 256 octet % 256))

end RelyingParty.Ipv4
