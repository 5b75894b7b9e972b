import Mathlib.Data.List.Basic
import RelyingParty.Text.Utf8

/-! A text is read back from its UTF-8 octets, and its ASCII characters are seen among them. -/

namespace RelyingParty.Text

variable {n b : Nat} {rest : Octets}

/-- The octet of an ASCII character is the character. -/
theorem beginChar_one (ascii : n < 0x80) : beginChar (UInt8.ofNat n) = ([Char.ofNat n], none) := by
  -- The number of the octet is not reduced.
  have octet : n < 0x100 := Nat.lt_trans ascii (by decide)
  simp only [beginChar, UInt8.toNat_ofNat_of_lt' octet]
  rw [if_pos ascii]

/-- The first of two octets leaves one of any value to come. -/
theorem beginChar_two (low : 0xC2 ≤ n) (high : n ≤ 0xDF) :
    beginChar (UInt8.ofNat n) = ([], some ⟨n - 0xC0, 1, 0x80, 0xBF⟩) := by
  have octet : n < 0x100 := Nat.lt_of_le_of_lt high (by decide)
  simp only [beginChar, UInt8.toNat_ofNat_of_lt' octet]
  rw [if_neg (by omega), if_pos ⟨low, high⟩]

/-- The first of three octets leaves two to come. The next one has no small value when the character
would need fewer octets, and no great one when it would be a surrogate. -/
theorem beginChar_three (low : 0xE0 ≤ n) (high : n ≤ 0xEF) (tail : 0x80 ≤ b ∧ b ≤ 0xBF)
    (long : n = 0xE0 → 0xA0 ≤ b) (scalar : n = 0xED → b ≤ 0x9F) :
    ∃ least most, beginChar (UInt8.ofNat n) = ([], some ⟨n - 0xE0, 2, least, most⟩) ∧
      least ≤ b ∧ b ≤ most := by
  have octet : n < 0x100 := Nat.lt_of_le_of_lt high (by decide)
  simp only [beginChar, UInt8.toNat_ofNat_of_lt' octet]
  rw [if_neg (by omega), if_neg (by omega)]
  -- The least and the greatest of these octets narrow what may follow.
  by_cases first : n = 0xE0
  · exact ⟨0xA0, 0xBF, by simp [first], long first, tail.2⟩
  by_cases surrogate : n = 0xED
  · exact ⟨0x80, 0x9F, by simp [surrogate], tail.1, scalar surrogate⟩
  refine ⟨0x80, 0xBF, ?_, tail⟩
  rw [if_neg first, if_neg surrogate, if_pos ⟨by omega, high⟩]

/-- The first of four octets leaves three to come. The next one has no small value when the
character would need fewer octets, and no great one when it would be beyond the last character. -/
theorem beginChar_four (low : 0xF0 ≤ n) (high : n ≤ 0xF4) (tail : 0x80 ≤ b ∧ b ≤ 0xBF)
    (long : n = 0xF0 → 0x90 ≤ b) (last : n = 0xF4 → b ≤ 0x8F) :
    ∃ least most, beginChar (UInt8.ofNat n) = ([], some ⟨n - 0xF0, 3, least, most⟩) ∧
      least ≤ b ∧ b ≤ most := by
  have octet : n < 0x100 := Nat.lt_of_le_of_lt high (by decide)
  simp only [beginChar, UInt8.toNat_ofNat_of_lt' octet]
  rw [if_neg (by omega), if_neg (by omega), if_neg (by omega), if_neg (by omega), if_neg (by omega)]
  -- Here, too, two of the octets narrow what may follow.
  by_cases first : n = 0xF0
  · exact ⟨0x90, 0xBF, by simp [first], long first, tail.2⟩
  by_cases final : n = 0xF4
  · exact ⟨0x80, 0x8F, by simp [final], tail.1, last final⟩
  refine ⟨0x80, 0xBF, ?_, tail⟩
  rw [if_neg first, if_pos ⟨by omega, by omega⟩]

/-- Between characters the next octet begins one. -/
theorem ofUtf8From_none {octet : UInt8} {read : Text} {pending : Option Pending}
    (begins : beginChar octet = (read, pending)) :
    ofUtf8From none (octet :: rest) = read ++ ofUtf8From pending rest := by
  rw [ofUtf8From, begins]

/-- An octet that is not the last of its character adds six bits to it. -/
theorem ofUtf8From_more {pending : Pending} (owed : pending.owed ≠ 1) (small : b < 0x100)
    (within : pending.low ≤ b ∧ b ≤ pending.high) :
    ofUtf8From (some pending) (UInt8.ofNat b :: rest) =
      ofUtf8From (some ⟨pending.value * 0x40 + (b - 0x80), pending.owed - 1, 0x80, 0xBF⟩) rest := by
  -- The octet is within its bounds, and the character is still unfinished.
  rw [ofUtf8From, UInt8.toNat_ofNat_of_lt' small, if_pos within]
  exact if_neg owed

/-- The last octet of a character completes it. -/
theorem ofUtf8From_last {pending : Pending} (owed : pending.owed = 1) (small : b < 0x100)
    (within : pending.low ≤ b ∧ b ≤ pending.high) :
    ofUtf8From (some pending) (UInt8.ofNat b :: rest) =
      Char.ofNat (pending.value * 0x40 + (b - 0x80)) :: ofUtf8From none rest := by
  rw [ofUtf8From, UInt8.toNat_ofNat_of_lt' small, if_pos within]
  exact if_pos owed

/-- The octets of a character are read as the character. -/
theorem ofUtf8From_utf8EncodeChar (c : Char) (rest : Octets) :
    ofUtf8From none (String.utf8EncodeChar c ++ rest) = c :: ofUtf8From none rest := by
  -- The octets are made of six bits each, and the first one tells how many there are.
  have whole : Char.ofNat c.val.toNat = c := Char.ofNat_toNat c
  have valid : c.val.toNat < 0xD800 ∨ 0xDFFF < c.val.toNat ∧ c.val.toNat < 0x110000 := c.valid
  rw [String.utf8EncodeChar.eq_1]
  generalize c.val.toNat = n at whole valid ⊢
  split
  · rename_i one
    rw [List.singleton_append, ofUtf8From_none (beginChar_one (Nat.lt_succ_of_le one)), whole]
    rfl
  split
  · -- Five bits are in the first octet and six in the second.
    rename_i one two
    have begins := beginChar_two (n := n / 64 % 32 + 192) (by omega) (by omega)
    have value : (n / 64 % 32 + 192 - 0xC0) * 0x40 + (n % 64 + 128 - 0x80) = n := by omega
    rw [List.cons_append, ofUtf8From_none begins, List.singleton_append,
      ofUtf8From_last rfl (by omega) ⟨by simp, by simp; omega⟩, value, whole]
    rfl
  split
  · -- Four bits are in the first octet. A surrogate would need one that is out of the next bounds.
    rename_i one two three
    obtain ⟨least, most, begins, within⟩ :=
      beginChar_three (n := n / 4096 % 16 + 224) (b := n / 64 % 64 + 128) (by omega) (by omega)
        (by omega) (by omega) (by omega)
    have value : ((n / 4096 % 16 + 224 - 0xE0) * 0x40 + (n / 64 % 64 + 128 - 0x80)) * 0x40 +
        (n % 64 + 128 - 0x80) = n := by omega
    rw [List.cons_append, ofUtf8From_none begins, List.cons_append,
      ofUtf8From_more (by simp) (by omega) within, List.singleton_append,
      ofUtf8From_last rfl (by omega) ⟨by simp, by simp; omega⟩, value, whole]
    rfl
  · -- Three bits are in the first octet, and no character is beyond the bounds of the next one.
    rename_i one two three
    obtain ⟨least, most, begins, within⟩ :=
      beginChar_four (n := n / 262144 % 8 + 240) (b := n / 4096 % 64 + 128) (by omega) (by omega)
        (by omega) (by omega) (by omega)
    have value : (((n / 262144 % 8 + 240 - 0xF0) * 0x40 + (n / 4096 % 64 + 128 - 0x80)) * 0x40 +
        (n / 64 % 64 + 128 - 0x80)) * 0x40 + (n % 64 + 128 - 0x80) = n := by omega
    rw [List.cons_append, ofUtf8From_none begins, List.cons_append,
      ofUtf8From_more (by simp) (by omega) within, List.cons_append,
      ofUtf8From_more (by simp) (by omega) ⟨by simp, by simp; omega⟩, List.singleton_append,
      ofUtf8From_last rfl (by omega) ⟨by simp, by simp; omega⟩, value, whole]
    rfl

/-- The octets of two texts are those of both together. -/
theorem utf8_append (front back : Text) : utf8 (front ++ back) = utf8 front ++ utf8 back :=
  List.flatMap_append

/-- A text is read back from its octets. -/
theorem ofUtf8_utf8 (text : Text) : ofUtf8 (utf8 text) = text := by
  -- The octets of the first character are read as it, with nothing left over.
  induction text with
  | nil => rfl
  | cons c rest ih =>
    have read := ofUtf8From_utf8EncodeChar c (utf8 rest)
    rw [ofUtf8] at ih ⊢
    rw [utf8, List.flatMap_cons, ← utf8, read, ih]

/-- Texts with the same octets are the same. -/
theorem utf8_injective {text other : Text} (same : utf8 text = utf8 other) : text = other := by
  rw [← ofUtf8_utf8 text, same, ofUtf8_utf8]

/-- The octet of an ASCII character is its number. -/
theorem utf8EncodeChar_ascii {c : Char} (ascii : c.toNat < 0x80) :
    String.utf8EncodeChar c = [UInt8.ofNat c.toNat] := by
  rw [String.utf8EncodeChar.eq_1]
  exact if_pos (Nat.le_of_lt_succ ascii)

/-- The octets of any other character are above those of ASCII. -/
theorem le_of_mem_utf8EncodeChar {c : Char} (other : 0x80 ≤ c.toNat) {octet : UInt8}
    (inside : octet ∈ String.utf8EncodeChar c) : 0x80 ≤ octet.toNat := by
  have above : ¬c.val.toNat ≤ 0x7F := Nat.not_le_of_lt other
  -- Every octet has a mark of its own, which is at least that of the later ones.
  rw [String.utf8EncodeChar.eq_1] at inside
  simp only [if_neg above] at inside
  generalize c.val.toNat = n at inside
  split at inside
  · simp only [List.mem_cons, List.not_mem_nil, or_false] at inside
    rcases inside with rfl | rfl <;> simp <;> omega
  split at inside
  · simp only [List.mem_cons, List.not_mem_nil, or_false] at inside
    rcases inside with rfl | rfl | rfl <;> simp <;> omega
  · simp only [List.mem_cons, List.not_mem_nil, or_false] at inside
    rcases inside with rfl | rfl | rfl | rfl <;> simp <;> omega

/-- An ASCII character is in a text exactly when its octet is among those of the text. -/
theorem mem_utf8_iff {c : Char} (ascii : c.toNat < 0x80) {text : Text} :
    UInt8.ofNat c.toNat ∈ utf8 text ↔ c ∈ text := by
  have value {d : Char} (small : d.toNat < 0x80) : (UInt8.ofNat d.toNat).toNat = d.toNat :=
    UInt8.toNat_ofNat_of_lt' (Nat.lt_trans small (by decide))
  rw [utf8, List.mem_flatMap]
  constructor
  · intro found
    obtain ⟨d, inside, octet⟩ := found
    -- The octets of all other characters are above those of ASCII.
    by_cases small : d.toNat < 0x80
    · rw [utf8EncodeChar_ascii small, List.mem_singleton] at octet
      have same : c.toNat = d.toNat := by rw [← value ascii, octet, value small]
      rwa [Char.toNat_inj.mp same]
    · have above := le_of_mem_utf8EncodeChar (Nat.le_of_not_lt small) octet
      rw [value ascii] at above
      omega
  · intro inside
    exact ⟨c, inside, by simp [utf8EncodeChar_ascii ascii]⟩

end RelyingParty.Text
