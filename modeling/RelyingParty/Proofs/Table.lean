import RelyingParty.Table

/-! What is found in a table after values are put in and taken out. -/

namespace RelyingParty.Table

variable {α : Type}

/-- Putting a value under a name changes what is found under that name alone. -/
theorem get?_insert (name wanted : Text) (value : α) (table : Table α) :
    get? wanted (insert name value table) =
      if name = wanted then some value else get? wanted table := by
  -- The new entry stands before every other entry of its name, in order or not.
  induction table with
  | nil => simp [insert, get?]
  | cons entry rest ih =>
    simp only [insert]
    split
    · by_cases found : name = wanted <;> simp_all [get?]
    · split
      · simp [get?]
      · by_cases found : entry.1 = wanted
        · simp_all [get?]
        · simp [get?, found, ih]

/-- Taking out a name leaves what is found under other names. -/
theorem get?_erase (name wanted : Text) (table : Table α) :
    get? wanted (erase name table) = if name = wanted then none else get? wanted table := by
  induction table with
  | nil => simp [erase, get?]
  | cons entry rest ih =>
    simp only [erase] at ih ⊢
    by_cases taken : entry.1 = name
    · -- An entry that is taken out was only found under the name that goes.
      rw [List.filter_cons_of_neg (by simp [taken]), ih]
      by_cases found : name = wanted <;> simp [get?, taken, found]
    · rw [List.filter_cons_of_pos (by simp [taken])]
      by_cases found : entry.1 = wanted
      · have other : name ≠ wanted := fun same => taken (found.trans same.symm)
        simp [get?, found, other]
      · simpa [get?, found] using ih

/-- A table of pairs holds the last value of each name. -/
theorem get?_ofPairs (wanted : Text) (pairs : List (Text × α)) :
    get? wanted (ofPairs pairs) = get? wanted pairs.reverse := by
  -- Read backwards, the pairs are put in one before the other.
  rw [ofPairs, List.foldl_eq_foldr_reverse]
  induction pairs.reverse with
  | nil => rfl
  | cons pair rest ih => simp only [List.foldr_cons, get?_insert, get?, ih]

/-- With one value per name, what is found is what there is. -/
theorem get?_eq_some_iff {pairs : List (Text × α)} (distinct : (pairs.map Prod.fst).Nodup)
    {wanted : Text} {value : α} : get? wanted pairs = some value ↔ (wanted, value) ∈ pairs := by
  induction pairs with
  | nil => simp [get?]
  | cons pair rest ih =>
    obtain ⟨name, own⟩ := pair
    obtain ⟨absent, distinct⟩ := List.nodup_cons.mp distinct
    by_cases found : name = wanted
    · -- No later pair has the name of the first.
      subst found
      have once : (name, value) ∉ rest := fun later => absent (List.mem_map.mpr ⟨_, later, rfl⟩)
      simp [get?, once, eq_comm]
    · simp [get?, found, Ne.symm found, ih distinct]

/-- With one value per name, a table of pairs holds the pairs. -/
theorem get?_ofPairs_eq_some_iff {pairs : List (Text × α)} (distinct : (pairs.map Prod.fst).Nodup)
    {wanted : Text} {value : α} :
    get? wanted (ofPairs pairs) = some value ↔ (wanted, value) ∈ pairs := by
  -- The last value of a name counts, which is the first one from behind, and there is only one.
  have reversed : (pairs.reverse.map Prod.fst).Nodup := by
    rw [List.map_reverse]
    exact List.pairwise_reverse.mpr (distinct.imp Ne.symm)
  rw [get?_ofPairs, get?_eq_some_iff reversed, List.mem_reverse]

end RelyingParty.Table
