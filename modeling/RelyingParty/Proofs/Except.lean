/-! A result hands on its value, or its fault, which may be given a cause. -/

namespace RelyingParty

variable {ε ε' α β : Type}

/-- What follows a value has a result of its own, and what follows a fault has none. -/
theorem bind_eq_ok_iff {result : Except ε α} {next : α → Except ε β} {last : β} :
    result >>= next = .ok last ↔ ∃ value, result = .ok value ∧ next value = .ok last := by
  -- A fault ends the whole before the second step is reached.
  cases result with
  | ok value => simp [bind, Except.bind]
  | error fault => simp [bind, Except.bind]

/-- A changed value comes from a value. -/
theorem map_eq_ok_iff {f : α → β} {result : Except ε α} {last : β} :
    result.map f = .ok last ↔ ∃ value, result = .ok value ∧ f value = last := by
  -- A fault is passed on unchanged.
  cases result with
  | ok value => simp [Except.map]
  | error fault => simp [Except.map]

/-- There is a last value exactly when there is a first one that leads to it. -/
theorem exists_bind_eq_ok_iff {result : Except ε α} {next : α → Except ε β} :
    (∃ last, result >>= next = .ok last) ↔
      ∃ value, result = .ok value ∧ ∃ last, next value = .ok last := by
  simp only [bind_eq_ok_iff]
  grind

/-- Results that are all values are collected. -/
theorem mapM_eq_ok {f : α → Except ε β} {g : α → β} {list : List α}
    (each : ∀ a ∈ list, f a = .ok (g a)) : list.mapM f = .ok (list.map g) := by
  -- Every element is passed, so nothing stops on the way.
  induction list with
  | nil => rfl
  | cons a rest ih =>
    rw [List.mapM_cons, each a (.head _), ih fun b inside => each b (.tail _ inside)]
    rfl

/-- Results that are collected are all values. -/
theorem exists_of_mapM_eq_ok {f : α → Except ε β} {list : List α} {values : List β}
    (collected : list.mapM f = .ok values) {a : α} (inside : a ∈ list) :
    ∃ value, f a = .ok value := by
  -- Each element is passed before those behind it.
  induction list generalizing values with
  | nil => cases inside
  | cons first rest ih =>
    rw [List.mapM_cons] at collected
    obtain ⟨value, own, collected⟩ := bind_eq_ok_iff.mp collected
    obtain ⟨others, later, _⟩ := bind_eq_ok_iff.mp collected
    rcases List.mem_cons.mp inside with rfl | inside
    · exact ⟨value, own⟩
    · exact ih later inside

/-- Of values that are collected, each has its place among them. -/
theorem exists_of_mapM_eq_some {f : α → Option β} {list : List α} {values : List β}
    (collected : list.mapM f = some values) {a : α} (inside : a ∈ list) :
    ∃ value ∈ values, f a = some value := by
  -- The values are collected in the order of the list, so the first is the value of the first.
  induction list generalizing values with
  | nil => cases inside
  | cons first rest ih =>
    rw [List.mapM_cons] at collected
    obtain ⟨value, own, collected⟩ := Option.bind_eq_some_iff.mp collected
    obtain ⟨others, later, same⟩ := Option.bind_eq_some_iff.mp collected
    cases same
    rcases List.mem_cons.mp inside with rfl | inside
    · exact ⟨value, .head _, own⟩
    · obtain ⟨found, among, read⟩ := ih later inside
      exact ⟨found, .tail _ among, read⟩

variable (cause : ε → ε')

/-- A value is kept. -/
@[simp] theorem mapError_ok (value : α) : (Except.ok value).mapError cause = .ok value := rfl

/-- A fault is given its cause. -/
@[simp] theorem mapError_error (fault : ε) :
    (Except.error fault : Except ε α).mapError cause = .error (cause fault) := rfl

variable {cause} {result : Except ε α}

/-- A value comes from the same value. -/
theorem mapError_eq_ok_iff {value : α} :
    result.mapError cause = .ok value ↔ result = .ok value := by
  cases result <;> simp

/-- A fault with a cause comes from a fault. -/
theorem mapError_eq_error_iff {fault : ε'} :
    result.mapError cause = .error fault ↔
      ∃ inner, result = .error inner ∧ fault = cause inner := by
  cases result <;> simp [eq_comm]

end RelyingParty
