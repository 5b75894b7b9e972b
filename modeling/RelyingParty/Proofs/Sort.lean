import Mathlib.Data.List.Basic

/-! Sorting is stable: elements that are alike keep their order. -/

namespace RelyingParty

section Stable

variable {α : Type} {le : α → α → Bool}
  (trans : ∀ a b c, le a b = true → le b c = true → le a c = true)
  (total : ∀ a b, (le a b || le b a) = true)
include trans total

/-- Elements of which none has to stand before another stand as before. -/
theorem filter_mergeSort {p : α → Bool} (alike : ∀ a b, p a = true → p b = true → le a b = true)
    (list : List α) : (list.mergeSort le).filter p = list.filter p := by
  -- They are in order already, so the sort keeps them a part of its result.
  have ordered : (list.filter p).Pairwise fun a b => le a b = true := by
    apply List.pairwise_of_forall_mem_list
    intro a first b second
    exact alike a b (List.mem_filter.mp first).2 (List.mem_filter.mp second).2
  have kept : (list.filter p).Sublist (list.mergeSort le) :=
    List.sublist_mergeSort trans total ordered List.filter_sublist
  have part := kept.filter p
  rw [List.filter_filter] at part
  simp only [Bool.and_self] at part
  have perm : (list.mergeSort le).Perm list := List.mergeSort_perm list le
  exact (part.eq_of_length (perm.filter p).length_eq.symm).symm

/-- Of two elements of a sorted list the first one is less, or they stand as before. -/
theorem pairwise_mergeSort_of_pairwise {before : α → α → Prop} {list : List α}
    (ordered : list.Pairwise before) :
    (list.mergeSort le).Pairwise fun a b => le a b = true ∧ (le b a = true → before a b) := by
  rw [List.pairwise_iff_forall_sublist]
  intro a b pair
  -- Sorting puts no element in front of a smaller one.
  have first : le a b = true := by
    have sorted := List.pairwise_mergeSort trans total list
    exact List.pairwise_iff_forall_sublist.mp sorted pair
  refine ⟨first, fun second => ?_⟩
  -- Two that are alike are among all that are like the first one.
  have alike (x y : α) (like : (le a x && le x a) = true) (like' : (le a y && le y a) = true) :
      le x y = true := by
    rw [Bool.and_eq_true] at like like'
    exact trans x a y like.2 like'.1
  have self : le a a = true := by simpa using total a a
  have part := pair.filter fun x => le a x && le x a
  rw [filter_mergeSort trans total alike] at part
  -- Both are in that part, which keeps the order of the list.
  have both : [a, b].filter (fun x => le a x && le x a) = [a, b] := by
    simp [self, first, second]
  rw [both] at part
  exact List.pairwise_iff_forall_sublist.mp ordered (part.trans List.filter_sublist)

end Stable

section Descending

variable {α : Type} (key : α → Int)

/-- The order of descending keys is transitive. -/
theorem descending_trans (a b c : α) (first : decide (key b ≤ key a) = true)
    (second : decide (key c ≤ key b) = true) : decide (key c ≤ key a) = true := by
  simp only [decide_eq_true_eq] at first second ⊢
  omega

/-- Any two elements can be compared by their keys. -/
theorem descending_total (a b : α) : (decide (key b ≤ key a) || decide (key a ≤ key b)) = true := by
  simp only [Bool.or_eq_true, decide_eq_true_eq]
  omega

end Descending

end RelyingParty
