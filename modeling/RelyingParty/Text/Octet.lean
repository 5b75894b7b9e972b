import RelyingParty.Text.Utf8

/-! Places in a text, counted in octets of its UTF-8. -/

namespace RelyingParty.Text

/-- The number of octets of a text. -/
def octets (text : Text) : Nat := (utf8 text).length

@[simp] theorem octets_nil : octets [] = 0 := rfl

@[simp] theorem octets_cons (c : Char) (rest : Text) :
    octets (c :: rest) = c.utf8Size + octets rest := by
  simp [octets, utf8]

/-- Only the empty text has no octets. -/
theorem octets_pos {text : Text} (some_text : text ≠ []) : 0 < octets text := by
  obtain ⟨c, rest, rfl⟩ := List.exists_cons_of_ne_nil some_text
  rw [octets_cons]
  exact Nat.add_pos_left c.utf8Size_pos _

/-- The text from an octet on; there is none from inside a character or behind the end. -/
def fromOctet? : Nat → Text → Option Text
  | 0, text => some text
  | _ + 1, [] => none
  | n + 1, c :: rest => if c.utf8Size ≤ n + 1 then fromOctet? (n + 1 - c.utf8Size) rest else none

/-- The octet at which the first mark begins. -/
def octetOf? (mark : Char) (text : Text) : Option Nat :=
  (splitFirst mark text).map fun parts => octets parts.1

/-- What stands from an octet on has the octets that are left. -/
theorem octets_of_fromOctet? {n : Nat} {text rest : Text} (found : fromOctet? n text = some rest) :
    n + octets rest = octets text := by
  fun_induction fromOctet? n text with
  | case1 text =>
    cases found
    exact Nat.zero_add _
  | case2 => cases found
  -- The place is behind the first character, so it is further back in the others.
  | case3 n c text fits ih =>
    have := ih found
    rw [octets_cons]
    omega
  | case4 => cases found

/-- A mark that is found begins in front of the end. -/
theorem octetOf?_lt {mark : Char} {text : Text} {n : Nat} (found : octetOf? mark text = some n) :
    n < octets text := by
  obtain ⟨⟨before, after⟩, split, rfl⟩ := Option.map_eq_some_iff.mp found
  clear found
  -- The text in front of the mark grows with the recursion.
  fun_induction splitFirst mark text generalizing before with
  | case1 => cases split
  | case2 rest =>
    cases split
    exact octets_pos (List.cons_ne_nil _ _)
  | case3 c rest _ ih =>
    obtain ⟨⟨head, tail⟩, later, same⟩ := Option.map_eq_some_iff.mp split
    cases same
    simpa using ih head later

/-- So it does behind what stands in front of the text that it is found in. -/
theorem add_octetOf?_lt {mark : Char} {text rest : Text} {position offset : Nat}
    (left : fromOctet? position text = some rest) (found : octetOf? mark rest = some offset) :
    position + offset < octets text := by
  have whole := octets_of_fromOctet? left
  have inside := octetOf?_lt found
  omega

end RelyingParty.Text
