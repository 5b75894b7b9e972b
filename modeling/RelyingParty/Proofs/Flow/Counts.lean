import RelyingParty.Proofs.Flow.Confined

/-! The chains of a flow are counted from attempt to outcome, one inside another or one after
another. -/

namespace RelyingParty

/-- The labels tell the kinds of chains apart. -/
theorem FlowKind.label_injective : Function.Injective label := by
  -- Each pair of kinds is tried.
  intro kind other same
  cases kind <;> cases other <;> first | rfl | exact absurd same (by decide)

/-- The labels tell the outcomes apart. -/
theorem Outcome.label_injective : Function.Injective label := by
  -- Each pair of outcomes is tried.
  intro outcome other same
  cases outcome <;> cases other <;> first | rfl | exact absurd same (by decide)

/-- An increment of the counter of chains. -/
structure Count where
  kind : FlowKind
  outcome : Outcome
  deriving DecidableEq, Repr

namespace Count

/-- The signal of an increment. -/
def signal (count : Count) : Event.Signal :=
  .count Event.flowCounter [("flow", count.kind.label), ("outcome", count.outcome.label)] 1

/-- The signals tell the increments apart. -/
theorem signal_injective : Function.Injective signal := by
  -- A signal holds both labels.
  rintro ⟨kind, outcome⟩ ⟨other, ending⟩ same
  have labels : kind.label = other.label ∧ outcome.label = ending.label := by
    simpa [signal] using same
  rw [FlowKind.label_injective labels.1, Outcome.label_injective labels.2]

/-- The increments of a chain with its result, around those of the chains inside it. -/
def chain {α : Type} (kind : FlowKind) (result : Except Fault α) (inside : List Count) :
    List Count :=
  ⟨kind, .attempt⟩ :: (inside ++ [⟨kind, Flow.outcomeOf result⟩])

end Count

namespace Event

/-- The increment that a report is, if it is one. -/
def count? : Event → Option Count
  | counted kind outcome => some ⟨kind, outcome⟩
  | _ => none

/-- Whether a signal increments the counter of chains. -/
def Signal.isIncrement : Signal → Bool
  | .count counter _ _ => counter = flowCounter
  | _ => false

/-- The increments of the counter of chains among the signals of some reports, in order. -/
def increments (events : List Event) : List Signal := (events.map signal).filter Signal.isIncrement

/-- The counter of chains is incremented by the reports that count chains, and by no other. -/
theorem increments_eq (events : List Event) :
    increments events = (events.filterMap count?).map Count.signal := by
  induction events with
  | nil => rfl
  | cons event rest ih =>
    unfold increments at ih ⊢
    cases event with
    | counted kind outcome =>
      rw [List.map_cons, List.filter_cons_of_pos rfl, ih]
      rfl
    | found source count =>
      -- The counters of endpoints are other ones.
      cases count with
      | zero => exact ih
      | succ more => exact ih
    | _ => exact ih

end Event

/-- Whether some increments are well bracketed: an attempt is closed by the next outcome of its kind
behind the chains inside it, and what follows starts anew. -/
inductive Bracketed : List Count → Prop
  | nil : Bracketed []
  | chain {kind : FlowKind} {outcome : Outcome} {inside behind : List Count}
    (closes : outcome ≠ .attempt) (nested : Bracketed inside) (rest : Bracketed behind) :
    Bracketed (⟨kind, .attempt⟩ :: (inside ++ ⟨kind, outcome⟩ :: behind))

namespace Bracketed

/-- What is well bracketed may follow what is. -/
theorem append {first second : List Count} (opens : Bracketed first) (follows : Bracketed second) :
    Bracketed (first ++ second) := by
  -- The second list comes behind the last chain of the first one.
  induction opens with
  | nil => exact follows
  | chain closes nested rest nestedIh restIh =>
    rw [List.cons_append, List.append_assoc, List.cons_append]
    exact .chain closes nested restIh

/-- A chain around what is well bracketed is so as well. -/
theorem ofChain {α : Type} {kind : FlowKind} {result : Except Fault α} {inside : List Count}
    (nested : Bracketed inside) : Bracketed (Count.chain kind result inside) := by
  -- The outcome of a result is never the attempt that opens the chain.
  refine .chain ?_ nested .nil
  cases result with
  | ok value => exact Outcome.noConfusion
  | error fault => exact Outcome.noConfusion

/-- What is well bracketed has as many attempts of a kind as successes and failures. -/
theorem count_attempt {counts : List Count} (bracketed : Bracketed counts) (kind : FlowKind) :
    counts.count ⟨kind, .attempt⟩ =
      counts.count ⟨kind, .success⟩ + counts.count ⟨kind, .failure⟩ := by
  -- A chain adds one attempt and one outcome of its own kind, and nothing to the other kinds.
  induction bracketed with
  | nil => rfl
  | @chain other outcome inside behind closes nested rest nestedIh restIh =>
    simp only [List.count_cons, List.count_append, nestedIh, restIh, beq_iff_eq, Count.mk.injEq]
    cases outcome with
    | attempt => exact absurd rfl closes
    | success =>
      simp only [reduceCtorEq, and_true, and_false, if_false]
      omega
    | failure =>
      simp only [reduceCtorEq, and_true, and_false, if_false]
      omega

end Bracketed

namespace Flow

variable {σ α β : Type} {backend : Backend σ}

/-- The increments of a run, in order. -/
def counts (backend : Backend σ) (flow : Flow α) (state : σ) : List Count :=
  (flow.run backend state).events.filterMap Event.count?

/-- What follows a flow counts behind it. -/
theorem counts_andThen (flow : Flow α) (next : Except Fault α → Flow β) (state : σ) :
    (flow.andThen next).counts backend state = flow.counts backend state ++
      (next (flow.run backend state).result).counts backend (flow.run backend state).state := by
  -- The events of both parts follow each other.
  unfold counts
  rw [run_andThen]
  exact List.filterMap_append

/-- What follows a value counts behind the first part; behind a fault nothing more is counted. -/
theorem counts_bind (flow : Flow α) (next : α → Flow β) (state : σ) :
    (flow >>= next).counts backend state = flow.counts backend state ++
      match (flow.run backend state).result with
      | .ok value => (next value).counts backend (flow.run backend state).state
      | .error _ => [] := by
  -- The rest of a fault counts nothing.
  show (flow.andThen _).counts backend state = _
  rw [counts_andThen]
  cases (flow.run backend state).result with
  | ok value => rfl
  | error fault => rfl

/-- An observed flow counts a chain with its result around what it counts itself. -/
theorem counts_observe (kind : FlowKind) (stage : Text) (flow : Flow α) (state : σ) :
    (observe kind stage flow).counts backend state =
      Count.chain kind (flow.run backend state).result (flow.counts backend state) := by
  -- The attempt is counted in front and the outcome behind.
  show ⟨kind, .attempt⟩ :: (flow.andThen _).counts backend state = _
  rw [counts_andThen]
  rfl

/-- A dismissed flow counts as the flow itself. -/
theorem counts_dismiss (flow : Flow α) (state : σ) :
    flow.dismiss.counts backend state = flow.counts backend state := by
  -- Just the result is dropped.
  unfold counts
  rw [run_dismiss]

/-- A flow that may not count does not. -/
theorem Confined.counts_eq_nil {asks : Request → Prop} {tells : Event → Prop} {flow : Flow α}
    (confined : flow.Confined asks tells) (uncounted : ∀ event, tells event → event.count? = none)
    (backend : Backend σ) (state : σ) : flow.counts backend state = [] :=
  -- Every event of its run is one that it may tell.
  List.filterMap_eq_nil_iff.mpr fun event told =>
    uncounted event ((confined.run backend state).2 event told)

end Flow

end RelyingParty
