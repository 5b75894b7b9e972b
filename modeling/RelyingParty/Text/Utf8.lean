import RelyingParty.Text

/-! Texts are carried as UTF-8; ill-formed bytes are read as replacement characters. -/

namespace RelyingParty

/-- A sequence of octets. -/
abbrev Octets := List UInt8

namespace Text

/-- The UTF-8 octets of a text. -/
def utf8 (text : Text) : Octets := text.flatMap String.utf8EncodeChar

/-- What stands for ill-formed octets. -/
def replacement : Char := '\ufffd'

/-- A character whose last octets are still to come, and the bounds of the next one. -/
structure Pending where
  value : Nat
  owed : Nat
  low : Nat
  high : Nat

/-- Reads an octet between characters. -/
def beginChar (octet : UInt8) : Text × Option Pending :=
  let b := octet.toNat
  if b < 0x80 then ([Char.ofNat b], none)
  else if 0xC2 ≤ b ∧ b ≤ 0xDF then ([], some ⟨b - 0xC0, 1, 0x80, 0xBF⟩)
  -- The bounds of the second octet keep out overlong forms, surrogates and what is no code point.
  else if b = 0xE0 then ([], some ⟨0, 2, 0xA0, 0xBF⟩)
  else if b = 0xED then ([], some ⟨0xD, 2, 0x80, 0x9F⟩)
  else if 0xE1 ≤ b ∧ b ≤ 0xEF then ([], some ⟨b - 0xE0, 2, 0x80, 0xBF⟩)
  else if b = 0xF0 then ([], some ⟨0, 3, 0x90, 0xBF⟩)
  else if 0xF1 ≤ b ∧ b ≤ 0xF3 then ([], some ⟨b - 0xF0, 3, 0x80, 0xBF⟩)
  else if b = 0xF4 then ([], some ⟨4, 3, 0x80, 0x8F⟩)
  else ([replacement], none)

/-- Reads octets after a character that may be unfinished; the longest start of a character that
breaks off is one replacement character. -/
def ofUtf8From : Option Pending → Octets → Text
  | none, [] => []
  | some _, [] => [replacement]
  | none, octet :: rest =>
    let (read, pending) := beginChar octet
    read ++ ofUtf8From pending rest
  | some pending, octet :: rest =>
    if pending.low ≤ octet.toNat ∧ octet.toNat ≤ pending.high then
      let value := pending.value * 0x40 + (octet.toNat - 0x80)
      if pending.owed = 1 then Char.ofNat value :: ofUtf8From none rest
      else ofUtf8From (some ⟨value, pending.owed - 1, 0x80, 0xBF⟩) rest
    else
      -- The octet that broke the character off may begin another one.
      let (read, next) := beginChar octet
      replacement :: (read ++ ofUtf8From next rest)

/-- The text of a sequence of octets, ill-formed parts replaced. -/
def ofUtf8 (octets : Octets) : Text := ofUtf8From none octets

/-- One octet as two upper-case hexadecimal digits. -/
def hexOctet (octet : UInt8) : Text :=
  [(Nat.digitChar (octet.toNat / 16)).toUpper, (Nat.digitChar (octet.toNat % 16)).toUpper]

/-- One octet as a percent triplet. -/
def percentOctet (octet : UInt8) : Text := '%' :: hexOctet octet

end Text

end RelyingParty
