import RelyingParty.Event
import RelyingParty.Fault
import RelyingParty.Json

/-! Flows are computations that fetch URLs, use a session store, and report what they do. -/

namespace RelyingParty

/-- A flow: its result, or a step with what comes behind it. -/
inductive Flow (α : Type) where
  | done (result : Except Fault α)
  | report (event : Event) (next : Flow α)
  | fetch (request : Request) (next : Except TransportFault Response → Flow α)
  | read (key : Text) (next : Except SessionFault (Option Json) → Flow α)
  | write (key : Text) (value : Json) (next : Except SessionFault Unit → Flow α)
  | erase (key : Text) (next : Except SessionFault Unit → Flow α)

namespace Flow

variable {α β : Type}

/-- Continues with what follows a result, whether it is a value or a fault. -/
def andThen (next : Except Fault α → Flow β) : Flow α → Flow β
  | done result => next result
  -- Every step stays, and what follows is moved behind the last one.
  | report event rest => report event (rest.andThen next)
  | fetch request rest => fetch request fun response => (rest response).andThen next
  | read key rest => read key fun value => (rest value).andThen next
  | write key value rest => write key value fun outcome => (rest outcome).andThen next
  | erase key rest => erase key fun outcome => (rest outcome).andThen next

/-- Continues with what follows a value; a fault ends the flow. -/
def bind (flow : Flow α) (next : α → Flow β) : Flow β :=
  flow.andThen fun result =>
    match result with
    | .ok value => next value
    | .error fault => done (.error fault)

instance : Monad Flow where
  pure value := done (.ok value)
  bind := bind

/-- The flow that fails. -/
def fail (fault : Fault) : Flow α := done (.error fault)

/-- The flow of one report. -/
def tell (event : Event) : Flow Unit := report event (done (.ok ()))

/-- The flow that fetches once; a fault of the transport has a cause for the caller. -/
def request (request : Request) (cause : TransportFault → Fault) : Flow Response :=
  fetch request fun response => done (response.mapError cause)

/-- The value under a key of the session. -/
def stored (key : Text) : Flow (Option Json) := read key fun value => done (value.mapError .session)

/-- Puts a value under a key of the session. -/
def store (key : Text) (value : Json) : Flow Unit :=
  write key value fun outcome => done (outcome.mapError .session)

/-- Removes a key from the session. -/
def forget (key : Text) : Flow Unit := erase key fun outcome => done (outcome.mapError .session)

/-- The outcome of a result. -/
def outcomeOf : Except Fault α → Outcome
  | .ok _ => .success
  | .error _ => .failure

/-- Reports a flow from its attempt to its outcome, which it leaves as it is. -/
def observe (kind : FlowKind) (stage : Text) (flow : Flow α) : Flow α :=
  report (.entered kind stage) (report (.counted kind .attempt)
    (flow.andThen fun result => report (.counted kind (outcomeOf result)) (done result)))

end Flow

/-- What flows run against; its state may change with every step. -/
structure Backend (σ : Type) where
  fetch : Request → σ → Except TransportFault Response × σ
  read : Text → σ → Except SessionFault (Option Json) × σ
  write : Text → Json → σ → Except SessionFault Unit × σ
  erase : Text → σ → Except SessionFault Unit × σ

/-- A flow that has run: its result, the state it leaves, and what it asked and reported. -/
structure Ran (σ α : Type) where
  result : Except Fault α
  state : σ
  requests : List Request
  events : List Event

/-- Runs a flow from a state. -/
def Flow.run {σ α : Type} (backend : Backend σ) : Flow α → σ → Ran σ α
  | done result, state => ⟨result, state, [], []⟩
  -- A report leaves the state alone.
  | report event next, state =>
    let ran := next.run backend state
    { ran with events := event :: ran.events }
  | fetch request next, state =>
    let (response, state) := backend.fetch request state
    let ran := (next response).run backend state
    { ran with requests := request :: ran.requests }
  -- Accesses to the session are no requests, so only the state is handed on.
  | read key next, state =>
    let (value, state) := backend.read key state
    (next value).run backend state
  | write key value next, state =>
    let (outcome, state) := backend.write key value state
    (next outcome).run backend state
  | erase key next, state =>
    let (outcome, state) := backend.erase key state
    (next outcome).run backend state

end RelyingParty
