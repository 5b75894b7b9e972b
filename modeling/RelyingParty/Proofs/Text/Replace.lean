import Mathlib.Data.List.Infix
import RelyingParty.Proofs.Text

/-! What is replaced in a text: the occurrences of a needle from left to right, each behind the end
of the one in front of it. -/

namespace RelyingParty.Text

/-- A start is not dropped exactly when the text does not begin with it. -/
theorem dropStart?_eq_none_iff {start text : Text} :
    dropStart? start text = none ↔ ¬start <+: text := by
  -- Dropping a start and putting it back in front are inverse.
  constructor
  · rintro absent ⟨rest, rfl⟩
    rw [dropStart?_eq_some_iff.mpr rfl] at absent
    cases absent
  · intro absent
    refine Option.eq_none_iff_forall_ne_some.mpr fun rest dropped => absent ?_
    exact ⟨rest, (dropStart?_eq_some_iff.mp dropped).symm⟩

/-- What is to be passed over is left out. -/
theorem replaceAll_go (needle replacement : Text) (skip : Nat) (text : Text) :
    replaceAll.go needle replacement skip text =
      replaceAll needle replacement (text.drop skip) := by
  -- Each step passes one character over.
  induction text generalizing skip with
  | nil =>
    rw [List.drop_nil, replaceAll]
    cases skip <;> rfl
  | cons c rest ih =>
    cases skip with
    | zero => rfl
    | succ skip => exact ih skip

/-- Where the needle does not begin, a character is kept. -/
theorem replaceAll_of_absent {needle : Text} {c : Char} {rest : Text}
    (absent : dropStart? needle (c :: rest) = none) (replacement : Text) :
    replaceAll needle replacement (c :: rest) = c :: replaceAll needle replacement rest := by
  -- The walk asks at each character whether the needle begins there.
  have starts : startsWith needle (c :: rest) = false := by
    rw [startsWith, absent]
    rfl
  rw [replaceAll, replaceAll.go, starts]
  rfl

/-- Where the needle begins, it is replaced. -/
theorem replaceAll_append {needle : Text} (some_needle : needle ≠ []) (replacement rest : Text) :
    replaceAll needle replacement (needle ++ rest) =
      replacement ++ replaceAll needle replacement rest := by
  cases needle with
  | nil => exact absurd rfl some_needle
  | cons c tail =>
    have dropped : dropStart? (c :: tail) (c :: (tail ++ rest)) = some rest :=
      dropStart?_eq_some_iff.mpr rfl
    have starts : startsWith (c :: tail) (c :: (tail ++ rest)) = true := by
      rw [startsWith, dropped]
      rfl
    rw [List.cons_append, replaceAll, replaceAll.go, starts, replaceAll_go]
    -- The first character of the needle is read, and the others are passed over.
    simp

/-- What the first character of the needle is not in is passed over. -/
theorem replaceAll_append_of_not_mem {first : Char} {front : Text} (absent : first ∉ front)
    (tail replacement rest : Text) :
    replaceAll (first :: tail) replacement (front ++ rest) =
      front ++ replaceAll (first :: tail) replacement rest := by
  -- No occurrence begins in the front, which has no first character for it.
  induction front with
  | nil => rfl
  | cons c front ih =>
    have start : dropStart? (first :: tail) (c :: (front ++ rest)) = none :=
      if_neg (List.ne_of_not_mem_cons absent)
    rw [List.cons_append, replaceAll_of_absent start, ih (List.not_mem_of_not_mem_cons absent),
      List.cons_append]

/-- What holds of all texts can be proved needle by needle. -/
theorem occurrence_induction {needle : Text} (some_needle : needle ≠ []) {p : Text → Prop}
    (nil : p []) (found : ∀ rest, p rest → p (needle ++ rest))
    (other : ∀ c rest, dropStart? needle (c :: rest) = none → p rest → p (c :: rest))
    (text : Text) : p text := by
  -- The text behind an occurrence is shorter, as the needle is not empty.
  induction lengths : text.length using Nat.strongRecOn generalizing text with
  | _ n ih =>
    subst lengths
    cases text with
    | nil => exact nil
    | cons c rest =>
      cases dropped : dropStart? needle (c :: rest) with
      | none => exact other c rest dropped (ih rest.length (by simp) rest rfl)
      | some behind =>
        have shorter := dropStart?_length dropped
        have positive := List.length_pos_iff.mpr some_needle
        rw [dropStart?_eq_some_iff.mp dropped]
        exact found behind (ih behind.length (by omega) behind rfl)

/-- A needle that does not begin with a character begins behind it, if at all. -/
theorem infix_of_absent {needle : Text} {c : Char} {rest : Text}
    (absent : dropStart? needle (c :: rest) = none) (inside : needle <:+: c :: rest) :
    needle <:+: rest := by
  -- The only other place to begin is the front.
  rcases List.infix_cons_iff.mp inside with start | later
  · exact absurd start (dropStart?_eq_none_iff.mp absent)
  · exact later

/-- Without an occurrence nothing is replaced. -/
theorem replaceAll_of_not_infix {needle text : Text} (absent : ¬needle <:+: text)
    (replacement : Text) : replaceAll needle replacement text = text := by
  -- No occurrence begins at any character.
  induction text with
  | nil => rfl
  | cons c rest ih =>
    have start : dropStart? needle (c :: rest) = none :=
      dropStart?_eq_none_iff.mpr fun front => absent front.isInfix
    rw [replaceAll_of_absent start, ih fun inside => absent (List.infix_cons inside)]

section Shorter

variable {needle replacement : Text} (shorter : replacement.length < needle.length)
include shorter

/-- A shorter replacement does not lengthen a text. -/
theorem length_replaceAll_le (text : Text) :
    (replaceAll needle replacement text).length ≤ text.length := by
  -- An occurrence is replaced by something shorter, and any other character stays.
  have some_needle : needle ≠ [] := List.ne_nil_of_length_pos (by omega)
  induction text using occurrence_induction some_needle with
  | nil => exact Nat.le_refl 0
  | found rest ih =>
    rw [replaceAll_append some_needle, List.length_append, List.length_append]
    omega
  | other c rest absent ih =>
    rw [replaceAll_of_absent absent, List.length_cons, List.length_cons]
    omega

/-- A shorter replacement shortens a text with an occurrence. -/
theorem length_replaceAll_lt {text : Text} (inside : needle <:+: text) :
    (replaceAll needle replacement text).length < text.length := by
  -- There is an occurrence at the front or behind it; behind it nothing gets longer.
  have some_needle : needle ≠ [] := List.ne_nil_of_length_pos (by omega)
  induction text using occurrence_induction some_needle with
  | nil => exact absurd (List.infix_nil.mp inside) some_needle
  | found rest ih =>
    have behind := length_replaceAll_le shorter rest
    rw [replaceAll_append some_needle, List.length_append, List.length_append]
    omega
  | other c rest absent ih =>
    have later := ih (infix_of_absent absent inside)
    rw [replaceAll_of_absent absent, List.length_cons, List.length_cons]
    omega

/-- A shorter replacement leaves a text of its length only when there is nothing to replace. -/
theorem not_infix_of_length_le {text : Text}
    (long : text.length ≤ (replaceAll needle replacement text).length) : ¬needle <:+: text :=
  fun inside => Nat.not_lt.mpr long (length_replaceAll_lt shorter inside)

end Shorter

end RelyingParty.Text
