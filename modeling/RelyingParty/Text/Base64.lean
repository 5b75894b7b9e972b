import RelyingParty.Text.Utf8

/-! Base64 writes octets in groups of three, as four characters of six bits each. -/

namespace RelyingParty.Base64

/-- The characters of the values below 64. -/
def alphabet : Text := "ABCDEFGHIJKLMNOPQRSTUVWXYZabcdefghijklmnopqrstuvwxyz0123456789+/"

/-- The character of the six bits of a group from a place value on. -/
def digit (group place : Nat) : Char := (alphabet[group / place % 64]?).getD '='

/-- Writes octets; a last group that is not full ends in equals signs. -/
def encode : Octets → Text
  | [] => []
  -- The octets that are missing from a group of three count as zero.
  | [a] =>
    let group := a.toNat * 65536
    [digit group 262144, digit group 4096, '=', '=']
  | [a, b] =>
    let group := a.toNat * 65536 + b.toNat * 256
    [digit group 262144, digit group 4096, digit group 64, '=']
  | a :: b :: c :: rest =>
    let group := a.toNat * 65536 + b.toNat * 256 + c.toNat
    digit group 262144 :: digit group 4096 :: digit group 64 :: digit group 1 :: encode rest

end RelyingParty.Base64
