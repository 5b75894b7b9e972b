import RelyingParty.Proofs.Text
import RelyingParty.Proofs.Text.Utf8
import RelyingParty.Url.Escape

/-! Octets are read back from the percent triplets they are written in. -/

namespace RelyingParty.Url

open Text (percentOctet utf8)

/-- What holds of the octets of all numbers below 256 holds of every octet. -/
theorem octet_induction {p : UInt8 → Prop} (tried : ∀ n < 256, p (UInt8.ofNat n))
    (octet : UInt8) : p octet := by
  -- Every octet is the octet of its own number.
  have known := tried octet.toNat octet.toNat_lt
  rwa [UInt8.ofNat_toNat] at known

/-- The two digits of an octet are read as its number. -/
theorem digits?_hexOctet (octet : UInt8) :
    Text.digits? 16 (Text.hexOctet octet) = some octet.toNat :=
  octet_induction (p := fun octet => Text.digits? 16 (Text.hexOctet octet) = some octet.toNat)
    (by decide +kernel) octet

/-- A triplet consists of a percent sign and hexadecimal digits. -/
theorem digit_of_mem_percentOctet {octet : UInt8} {c : Char} (inside : c ∈ percentOctet octet) :
    c = '%' ∨ (Text.digitValue? 16 c).isSome = true := by
  -- All triplets are tried.
  have all : (percentOctet octet).all (fun c => c = '%' || (Text.digitValue? 16 c).isSome) = true :=
    octet_induction (p := fun octet => (percentOctet octet).all
      (fun c => c = '%' || (Text.digitValue? 16 c).isSome) = true) (by decide +kernel) octet
  simpa using List.all_eq_true.mp all c inside

/-- A character other than a percent sign stands for its own octets. -/
theorem unescape_cons {c : Char} (plain : c ≠ '%') (rest : Text) :
    unescape (c :: rest) = utf8 [c] ++ unescape rest := by
  -- The other equation of the decoder begins with a percent sign.
  rw [unescape]
  exact fun _ _ _ percent => absurd percent plain

/-- A triplet stands for its octet. -/
theorem unescape_percentOctet (octet : UInt8) (rest : Text) :
    unescape (percentOctet octet ++ rest) = octet :: unescape rest := by
  have read := digits?_hexOctet octet
  unfold Text.hexOctet at read
  -- The two characters behind the percent sign are the digits that are read.
  show unescape ('%' :: _ :: _ :: rest) = _
  rw [unescape, read]
  simp

/-- Octets are read back from their triplets. -/
theorem unescape_percentOctets (octets : Octets) (rest : Text) :
    unescape (octets.flatMap percentOctet ++ rest) = octets ++ unescape rest := by
  -- One triplet after the other is read, by induction on the octets.
  induction octets with
  | nil => rfl
  | cons octet octets ih =>
    rw [List.flatMap_cons, List.append_assoc, unescape_percentOctet, ih, List.cons_append]

/-- An ASCII character that has no part in a triplet stands for its own octet. -/
theorem mem_unescape {c : Char} (ascii : c.toNat < 0x80) (percent : c ≠ '%')
    (other : Text.digitValue? 16 c = none) {text : Text} (inside : c ∈ text) :
    UInt8.ofNat c.toNat ∈ unescape text := by
  have own : UInt8.ofNat c.toNat ∈ utf8 [c] := (Text.mem_utf8_iff ascii).mpr (.head _)
  fun_induction unescape text with
  | case1 => cases inside
  | case2 high low rest octet read ih =>
    -- Both characters behind the percent sign are digits, and this one is none.
    have digits : ∀ d ∈ [high, low], (Text.digitValue? 16 d).isSome = true :=
      Text.isSome_digitValue?_of_digitsFrom? read
    have first : c ≠ high := fun same => by simp [← same, other] at digits
    have second : c ≠ low := fun same => by simp [← same, other] at digits
    have later : c ∈ rest := by simpa [percent, first, second] using inside
    exact .tail _ (ih later)
  | case3 high low rest _ ih =>
    exact List.mem_append_right _ (ih (List.mem_of_ne_of_mem percent inside))
  | case4 d rest _ ih =>
    -- Outside of triplets every character is encoded on its own.
    rcases List.mem_cons.mp inside with same | later
    · rw [← same]
      exact List.mem_append_left _ own
    · exact List.mem_append_right _ (ih later)

end RelyingParty.Url
