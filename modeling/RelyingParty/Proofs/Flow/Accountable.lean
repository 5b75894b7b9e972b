import RelyingParty.Proofs.Flow

/-! The faults of a flow may account for the response that stopped it. -/

namespace RelyingParty

/-- The status that a fault tells. -/
def Fault.status? : Fault → Option Nat
  | discovery _ cause => cause.status?
  | _ => none

/-- A fault tells a status exactly when it is that of a discovery whose cause has the status. -/
theorem Fault.status?_eq_some_iff {fault : Fault} {status : Nat} :
    fault.status? = some status ↔
      ∃ url cause, fault = .discovery url cause ∧ cause.status? = some status := by
  -- No other fault than that of a discovery holds a status.
  cases fault with
  | discovery url cause =>
    constructor
    · exact fun tells => ⟨url, cause, rfl, tells⟩
    · rintro ⟨_, _, ⟨⟩, tells⟩
      exact tells
  | _ => simp [status?]

/-- The status at which an answer stops a chain: that of a response which is not complete. -/
def stopOf : Except TransportFault Response → Option Nat
  | .ok response => if response.isComplete then none else some response.status
  | .error _ => none

/-- Whether the last of some fetches was answered by a response with a status that stops a chain. -/
def StoppedAt (asked : List Fetched) (status : Nat) : Prop :=
  ∃ request response, asked.getLast? = some ⟨request, .ok response⟩ ∧
    response.status = status ∧ status ≠ 200 ∧ status ≠ 206

/-- A response stops a chain at its status exactly when that is not one of a complete response. -/
theorem stopOf_ok_eq_some_iff {response : Response} {status : Nat} :
    stopOf (.ok response) = some status ↔
      response.status = status ∧ status ≠ 200 ∧ status ≠ 206 := by
  -- The two statuses are those that pass as complete.
  unfold stopOf
  rw [Option.ite_none_left_eq_some, Option.some.injEq]
  constructor
  · rintro ⟨incomplete, rfl⟩
    simpa [Response.isComplete] using incomplete
  · rintro ⟨rfl, whole, part⟩
    exact ⟨by simp [Response.isComplete, whole, part], rfl⟩

/-- The status at which some fetches stop; a status from before stands while nothing is fetched. -/
def lastStop (before : Option Nat) (asked : List Fetched) : Option Nat :=
  (asked.getLast?.map fun fetched => stopOf fetched.answer).getD before

/-- Fetches stop at a status exactly when the last response stops them there. -/
theorem lastStop_eq_some_iff {asked : List Fetched} {status : Nat} :
    lastStop none asked = some status ↔ StoppedAt asked status := by
  -- Without a fetch there is nothing to stop, and a fault of the transport has no status.
  unfold lastStop StoppedAt
  cases asked.getLast? with
  | none => simp
  | some fetched =>
    obtain ⟨request, answer⟩ := fetched
    cases answer with
    | error fault => simp [stopOf]
    | ok response =>
      rw [Option.map_some, Option.getD_some, stopOf_ok_eq_some_iff]
      constructor
      · exact fun stops => ⟨request, response, rfl, stops⟩
      · rintro ⟨_, _, ⟨⟩, stops⟩
        exact stops

/-- What was fetched first does not matter when something is fetched behind it. -/
theorem lastStop_cons (before : Option Nat) (fetched : Fetched) (asked : List Fetched) :
    lastStop before (fetched :: asked) = lastStop (stopOf fetched.answer) asked := by
  -- Only the last of the fetches counts.
  unfold lastStop
  cases asked with
  | nil => rfl
  | cons next rest => rw [List.getLast?_cons_cons, List.getLast?_cons]; rfl

namespace Flow

variable {α β : Type}

/-- Whether a flow fails with allowed faults only, which tell the status that its last response
stopped at; a status from before stands until the flow fetches. -/
def Accountable (allowed : Fault → Prop) : (stopped : Option Nat) → Flow α → Prop
  | stopped, done (.ok _) => stopped = none
  | stopped, done (.error fault) => allowed fault ∧ fault.status? = stopped
  | stopped, report _ next => next.Accountable allowed stopped
  -- A fetch replaces what an earlier response has stopped at.
  | _, fetch _ next => ∀ answer, (next answer).Accountable allowed (stopOf answer)
  | stopped, read _ next => ∀ found, (next found).Accountable allowed stopped
  | stopped, write _ _ next => ∀ outcome, (next outcome).Accountable allowed stopped
  | stopped, erase _ next => ∀ outcome, (next outcome).Accountable allowed stopped

variable {allowed allowed' : Fault → Prop} {stopped : Option Nat}

/-- A value behind complete responses is accountable. -/
theorem accountable_pure (value : α) : (pure value : Flow α).Accountable allowed none := rfl

/-- A result is accountable when each fault it may be is allowed and tells no status. -/
theorem accountable_done {result : Except Fault α}
    (faults : ∀ fault, result = .error fault → allowed fault ∧ fault.status? = none) :
    (done result).Accountable allowed none := by
  -- It asks for nothing, so no response can have stopped it.
  cases result with
  | ok value => rfl
  | error fault => exact faults fault rfl

/-- A request whose response has to be complete is accountable when the refusal of any other tells
its status. -/
theorem accountable_request_complete {request : Request} {cause : TransportFault → Fault}
    {refusal : Response → Fault} {next : Response → Flow α}
    (unanswered : ∀ fault, allowed (cause fault) ∧ (cause fault).status? = none)
    (refused : ∀ response,
      allowed (refusal response) ∧ (refusal response).status? = some response.status)
    (follows : ∀ response, (next response).Accountable allowed none) :
    (do
      let response ← Flow.request request cause
      if response.isComplete then next response
      else fail (refusal response)).Accountable allowed stopped := by
  intro answer
  cases answer with
  | error fault => exact unanswered fault
  | ok response =>
    -- The flow asks the same of the response as the status at which it stops.
    show Accountable allowed (if response.isComplete then none else some response.status)
      (if response.isComplete then next response else fail (refusal response))
    split
    · exact follows response
    · exact refused response

namespace Accountable

/-- A flow is accountable when its first part is, and what follows its values and its faults, which
start at the status that was told. -/
theorem andThen {flow : Flow α} {next : Except Fault α → Flow β}
    (first : flow.Accountable allowed' stopped)
    (values : ∀ value, (next (.ok value)).Accountable allowed none)
    (faults : ∀ fault, allowed' fault →
      (next (.error fault)).Accountable allowed fault.status?) :
    (flow.andThen next).Accountable allowed stopped := by
  -- The status moves along with the fetches, and the end of the first part has told it.
  induction flow generalizing stopped with
  | done result =>
    cases result with
    | ok value =>
      obtain rfl : stopped = none := first
      exact values value
    | error fault =>
      obtain ⟨may, rfl⟩ := first
      exact faults fault may
  | report event rest ih => exact ih first
  | fetch request rest ih => exact fun answer => ih answer (first answer)
  | read key rest ih => exact fun found => ih found (first found)
  | write key value rest ih => exact fun outcome => ih outcome (first outcome)
  | erase key rest ih => exact fun outcome => ih outcome (first outcome)

/-- A flow is accountable when its first part is and whatever follows a value of it. -/
theorem bind {flow : Flow α} {next : α → Flow β} (first : flow.Accountable allowed stopped)
    (follows : ∀ value, (next value).Accountable allowed none) :
    (flow >>= next).Accountable allowed stopped :=
  first.andThen follows fun _ may => ⟨may, rfl⟩

/-- An accountable flow stays so when more faults are allowed. -/
theorem mono {flow : Flow α} (first : flow.Accountable allowed' stopped)
    (wider : ∀ fault, allowed' fault → allowed fault) : flow.Accountable allowed stopped := by
  -- A flow is itself with nothing behind it, and there each fault may be named anew.
  rw [← andThen_done flow]
  exact first.andThen (fun _ => rfl) fun fault may => ⟨wider fault may, rfl⟩

/-- An accountable flow stays so when it is observed. -/
theorem observe {flow : Flow α} (kind : FlowKind) (stage : Text)
    (first : flow.Accountable allowed stopped) :
    (Flow.observe kind stage flow).Accountable allowed stopped :=
  Accountable.andThen first (fun _ => rfl) fun _ may => ⟨may, rfl⟩

/-- A run of an accountable flow ends with a value when nothing stopped it, and else with an allowed
fault that tells the status. -/
theorem run {σ : Type} {flow : Flow α} (first : flow.Accountable allowed stopped)
    (backend : Backend σ) (state : σ) :
    match (flow.run backend state).result with
    | .ok _ => lastStop stopped (flow.fetches backend state) = none
    | .error fault =>
      allowed fault ∧ fault.status? = lastStop stopped (flow.fetches backend state) := by
  -- Each fetch replaces the status at which the run stands.
  induction flow generalizing stopped state with
  | done result =>
    cases result with
    | ok value => exact first
    | error fault => exact first
  | report event rest ih => exact ih first state
  | fetch request rest ih =>
    have later := ih _ (first (backend.fetch request state).1) (backend.fetch request state).2
    simp only [Flow.run, fetches, lastStop_cons]
    exact later
  | read key rest ih => exact ih _ (first _) _
  | write key value rest ih => exact ih _ (first _) _
  | erase key rest ih => exact ih _ (first _) _

end Accountable

/-- Whether a flow fails with allowed faults only, by any backend, and with a fault of discovery
that has a status exactly when a response with that status stopped it. -/
def FailsAs (allowed : Fault → Prop) (flow : Flow α) : Prop :=
  ∀ (σ : Type) (backend : Backend σ) (state : σ),
    (∀ fault, (flow.run backend state).result = .error fault → allowed fault) ∧
    ∀ status, (∃ url cause, (flow.run backend state).result = .error (.discovery url cause) ∧
        cause.status? = some status) ↔
      StoppedAt (flow.fetches backend state) status

/-- An accountable flow fails as it accounts for it. -/
theorem Accountable.failsAs {flow : Flow α} (accountable : flow.Accountable allowed none) :
    flow.FailsAs allowed := by
  intro σ backend state
  have ends := accountable.run backend state
  cases ran : (flow.run backend state).result with
  | ok value =>
    -- A value is only found where nothing stopped the flow.
    rw [ran] at ends
    refine ⟨fun fault => nofun, fun status => ?_⟩
    rw [← lastStop_eq_some_iff, ends]
    simp
  | error fault =>
    rw [ran] at ends
    -- The status that the fault tells is where the flow was stopped last.
    obtain ⟨may, tells⟩ := ends
    refine ⟨fun other same => Except.error.inj same ▸ may, fun status => ?_⟩
    rw [← lastStop_eq_some_iff, ← tells, Fault.status?_eq_some_iff]
    simp

end Flow

end RelyingParty
