import RelyingParty.Proofs.Text
import RelyingParty.Text.Octet

/-! Which octets of a text begin what stands from them on: those between two characters. -/

namespace RelyingParty.Text

@[simp] theorem octets_append (front back : Text) :
    octets (front ++ back) = octets front + octets back := by
  simp [octets, utf8]

/-- A front that is not empty has the octets of its first character and others behind it. -/
theorem exists_front_cons_iff {n : Nat} {c : Char} {text rest : Text} :
    (∃ front, c :: text = front ++ rest ∧ octets front = n + 1) ↔
      c.utf8Size ≤ n + 1 ∧ ∃ front, text = front ++ rest ∧ octets front = n + 1 - c.utf8Size := by
  constructor
  · -- A front with octets begins with the first character of the text.
    rintro ⟨front, whole, taken⟩
    cases front with
    | nil => cases taken
    | cons d front =>
      obtain ⟨rfl, rfl⟩ := List.cons.inj whole
      rw [octets_cons] at taken
      exact ⟨by omega, front, rfl, by omega⟩
  · rintro ⟨fits, front, rfl, taken⟩
    exact ⟨c :: front, rfl, by rw [octets_cons]; omega⟩

/-- What stands from an octet on begins behind a front of as many octets. -/
theorem fromOctet?_eq_some_iff {n : Nat} {text rest : Text} :
    fromOctet? n text = some rest ↔ ∃ front, text = front ++ rest ∧ octets front = n := by
  -- A character is taken whole, or the octet is inside it.
  fun_induction fromOctet? n text with
  | case1 text =>
    constructor
    · intro found
      cases found
      exact ⟨[], rfl, rfl⟩
    · rintro ⟨front, rfl, none_taken⟩
      -- No octet is taken, and every character has one.
      cases front with
      | nil => rfl
      | cons c front =>
        exact absurd none_taken (Nat.ne_of_gt (octets_pos (List.cons_ne_nil c front)))
  | case2 n =>
    refine ⟨fun found => absurd found.symm (Option.some_ne_none _), ?_⟩
    -- Some octets are to be taken of an empty text.
    rintro ⟨front, whole, taken⟩
    obtain ⟨rfl, _⟩ := List.append_eq_nil_iff.mp whole.symm
    cases taken
  | case3 n c text fits ih => rw [ih, exists_front_cons_iff, and_iff_right fits]
  | case4 n c text long =>
    rw [exists_front_cons_iff]
    exact ⟨fun found => absurd found.symm (Option.some_ne_none _), fun parts => absurd parts.1 long⟩

/-- What stands behind a front begins at its octets. -/
theorem fromOctet?_append (front back : Text) :
    fromOctet? (octets front) (front ++ back) = some back :=
  fromOctet?_eq_some_iff.mpr ⟨front, rfl, rfl⟩

/-- The first mark begins behind what stands in front of it. -/
theorem octetOf?_append {mark : Char} {before : Text} (absent : mark ∉ before) (after : Text) :
    octetOf? mark (before ++ mark :: after) = some (octets before) := by
  rw [octetOf?, splitFirst_eq_some_iff.mpr ⟨rfl, absent⟩, Option.map_some]

/-- A mark that a text does not have is not found. -/
theorem octetOf?_of_notMem {mark : Char} {text : Text} (absent : mark ∉ text) :
    octetOf? mark text = none := by
  rw [octetOf?, splitFirst_eq_none_iff.mpr absent, Option.map_none]

end RelyingParty.Text
