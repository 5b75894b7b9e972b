import RelyingParty.Filter
import RelyingParty.Proofs.Except

/-! Results that are taken in turn give all that they hold, or the first fault among them; that is
how a filter gathers its endpoints. -/

namespace RelyingParty

section Results

variable {φ α β : Type}

/-- What some results hold, one behind the other, or the first fault among them. -/
def inTurn : List (Except φ (List α)) → Except φ (List α)
  | [] => .ok []
  | result :: rest => do
    let first ← result
    return first ++ (← inTurn rest)

/-- What the first result holds comes first. -/
@[simp] theorem inTurn_ok_cons (first : List α) (rest : List (Except φ (List α))) :
    inTurn (.ok first :: rest) = (inTurn rest).map (first ++ ·) := by
  -- A fault behind it is the fault of the whole either way.
  cases taken : inTurn rest with
  | error fault => simp [inTurn, taken, bind, Except.bind, Except.map]
  | ok later => simp [inTurn, taken, bind, Except.bind, pure, Except.pure, Except.map]

/-- A single result is what it is. -/
theorem inTurn_singleton (result : Except φ (List α)) : inTurn [result] = result := by
  -- Nothing stands behind it.
  cases result with
  | error fault => rfl
  | ok list => rw [inTurn_ok_cons, inTurn, Except.map, List.append_nil]

/-- Turns are taken by one group of results after the other. -/
theorem inTurn_append (front back : List (Except φ (List α))) :
    inTurn (front ++ back) = do
      let first ← inTurn front
      return first ++ (← inTurn back) := by
  -- By induction on the first group, where a fault ends both sides.
  induction front with
  | nil =>
    rw [List.nil_append]
    cases inTurn back <;> rfl
  | cons result rest ih =>
    cases result with
    | error fault => rfl
    | ok first =>
      rw [List.cons_append, inTurn_ok_cons, inTurn_ok_cons, ih]
      cases inTurn rest <;> cases inTurn back <;>
        simp [bind, Except.bind, pure, Except.pure, Except.map]

/-- Groups whose turns are taken first give what all results give in turn. -/
theorem inTurn_map_inTurn (groups : List (List (Except φ (List α)))) :
    inTurn (groups.map inTurn) = inTurn groups.flatten := by
  -- Group by group.
  induction groups with
  | nil => rfl
  | cons group rest ih => rw [List.map_cons, inTurn, ih, List.flatten_cons, inTurn_append]

/-- There is a first fault among some results, or none at all. -/
theorem all_ok_or_first_error (results : List (Except φ β)) :
    (∃ values : List β, results = values.map .ok) ∨
      ∃ (values : List β) (fault : φ) (back : List (Except φ β)),
        results = values.map .ok ++ .error fault :: back := by
  -- By induction: a fault in front is the first one, and a value in front leaves the question.
  induction results with
  | nil => exact .inl ⟨[], rfl⟩
  | cons result rest ih =>
    cases result with
    | error fault => exact .inr ⟨[], fault, rest, rfl⟩
    | ok first =>
      rcases ih with ⟨values, rfl⟩ | ⟨values, fault, back, rfl⟩
      · exact .inl ⟨first :: values, rfl⟩
      · exact .inr ⟨first :: values, fault, back, rfl⟩

variable (held : β → List α)

/-- Results without a fault give all that they hold. -/
theorem inTurn_ok (values : List β) :
    inTurn ((values.map (.ok : β → Except φ β)).map (Except.map held)) =
      .ok (values.flatMap held) := by
  -- One value after the other is held, and nothing fails.
  induction values with
  | nil => rfl
  | cons first rest ih =>
    rw [List.map_cons, List.map_cons, Except.map, inTurn_ok_cons, ih]
    rfl

/-- The first fault is what the turns end with. -/
theorem inTurn_first_error (values : List β) (fault : φ) (back : List (Except φ β)) :
    inTurn ((values.map Except.ok ++ Except.error fault :: back).map (Except.map held)) =
      .error fault := by
  -- The values in front succeed, and what stands behind the fault is not reached.
  rw [List.map_append, inTurn_append, inTurn_ok]
  rfl

variable {held} {results : List (Except φ β)}

/-- Turns succeed exactly when no result is a fault. -/
theorem inTurn_eq_ok_iff {list : List α} :
    inTurn (results.map (Except.map held)) = .ok list ↔
      ∃ values : List β, results = values.map .ok ∧ list = values.flatMap held := by
  -- With a first fault the turns would fail.
  constructor
  · intro taken
    rcases all_ok_or_first_error results with ⟨values, rfl⟩ | ⟨values, fault, back, rfl⟩
    · rw [inTurn_ok] at taken
      cases taken
      exact ⟨values, rfl, rfl⟩
    · rw [inTurn_first_error] at taken
      cases taken
  · rintro ⟨values, rfl, rfl⟩
    exact inTurn_ok held values

/-- Turns fail exactly with the first fault among the results. -/
theorem inTurn_eq_error_iff {fault : φ} :
    inTurn (results.map (Except.map held)) = .error fault ↔
      ∃ (values : List β) (back : List (Except φ β)),
        results = values.map .ok ++ .error fault :: back := by
  -- And without one they would not.
  constructor
  · intro failed
    rcases all_ok_or_first_error results with ⟨values, rfl⟩ | ⟨values, other, back, rfl⟩
    · rw [inTurn_ok] at failed
      cases failed
    · rw [inTurn_first_error] at failed
      cases failed
      exact ⟨values, back, rfl⟩
  · rintro ⟨values, back, rfl⟩
    exact inTurn_first_error held values fault back

/-- What the turns give is held by one of the results. -/
theorem exists_of_mem_inTurn {results : List (Except φ (List α))} {list : List α} {a : α}
    (taken : inTurn results = .ok list) (inside : a ∈ list) :
    ∃ own, .ok own ∈ results ∧ a ∈ own := by
  -- The results are their own values here, so one of them holds the element.
  rw [← List.map_id results, ← Except.map_id] at taken
  obtain ⟨values, rfl, rfl⟩ := inTurn_eq_ok_iff.mp taken
  obtain ⟨own, among, member⟩ := List.mem_flatMap.mp inside
  exact ⟨own, List.mem_map_of_mem among, member⟩

end Results

variable {ε : Type} {yadisUrl : Text}

/-- Rules give the endpoints of some candidates in turn. -/
theorem ruledEndpoints_eq (rules : List (Rule ε)) (candidates : List Candidate) :
    ruledEndpoints rules candidates =
      inTurn (candidates.map fun candidate =>
        (firstEndpoint candidate rules).map Option.toList) := by
  -- The recursion on the candidates is the one of the turns.
  induction candidates with
  | nil => rfl
  | cons candidate rest ih =>
    rw [ruledEndpoints, ih, List.map_cons]
    cases firstEndpoint candidate rules <;> rfl

namespace Filter

/-- Several filters give the endpoints of a service in turn. -/
theorem allEndpoints_eq (service : Service) (filters : List (Filter ε)) :
    allEndpoints yadisUrl service filters = inTurn (filters.map (endpoints yadisUrl service)) := by
  -- The recursion on the filters is the one of the turns.
  induction filters with
  | nil => rfl
  | cons filter rest ih => rw [allEndpoints, ih, List.map_cons, inTurn]

/-- A filter gives the endpoints of several services in turn. -/
theorem endpointsOfServices_eq (filter : Filter ε) (services : List Service) :
    filter.endpointsOfServices yadisUrl services =
      inTurn (services.map (filter.endpoints yadisUrl)) := by
  -- The recursion on the services is the one of the turns.
  induction services with
  | nil => rfl
  | cons service rest ih => rw [endpointsOfServices, ih, List.map_cons, inTurn]

end Filter

end RelyingParty
