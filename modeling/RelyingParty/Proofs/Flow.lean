import RelyingParty.Flow
import RelyingParty.Proofs.Except

/-! A flow runs part by part: what follows starts where the part before it ends. -/

namespace RelyingParty

/-- The backend that gives one response to every request, and whose session stays empty. -/
def Backend.always (response : Response) : Backend Unit where
  fetch _ _ := (.ok response, ())
  read _ _ := (.ok none, ())
  write _ _ _ := (.ok (), ())
  erase _ _ := (.ok (), ())

/-- The backend that gives some responses in order and fails behind them; its session stays
empty. -/
def Backend.script : Backend (List Response) where
  fetch _ left :=
    match left with
    | [] => (.error .io, [])
    | response :: rest => (.ok response, rest)
  read _ left := (.ok none, left)
  write _ _ left := (.ok (), left)
  erase _ left := (.ok (), left)

/-- A request with the answer that it got. -/
structure Fetched where
  request : Request
  answer : Except TransportFault Response

namespace Flow

variable {σ α β γ : Type} (backend : Backend σ)

/-- The requests of a flow with their answers, in order. -/
def fetches : Flow α → σ → List Fetched
  | done _, _ => []
  | report _ next, state => next.fetches state
  | fetch request next, state =>
    let (answer, after) := backend.fetch request state
    ⟨request, answer⟩ :: (next answer).fetches after
  -- Accesses of the session leave their mark on the state only.
  | read key next, state =>
    let (value, after) := backend.read key state
    (next value).fetches after
  | write key value next, state =>
    let (outcome, after) := backend.write key value state
    (next outcome).fetches after
  | erase key next, state =>
    let (outcome, after) := backend.erase key state
    (next outcome).fetches after

/-- What follows a flow may be grouped with what follows that. -/
theorem andThen_andThen (flow : Flow α) (next : Except Fault α → Flow β)
    (last : Except Fault β → Flow γ) :
    (flow.andThen next).andThen last = flow.andThen fun result => (next result).andThen last := by
  -- By induction on the first flow: what follows is moved to its end, step by step.
  induction flow with
  | done result => rfl
  | report event rest ih => simp only [andThen, ih]
  | fetch request rest ih => simp only [andThen, ih]
  | read key rest ih => simp only [andThen, ih]
  | write key value rest ih => simp only [andThen, ih]
  | erase key rest ih => simp only [andThen, ih]

/-- Nothing changes when the result of a flow is handed on as it is. -/
theorem andThen_done (flow : Flow α) : flow.andThen done = flow := by
  -- By induction on the flow; at its end the result is done again.
  induction flow with
  | done result => rfl
  | report event rest ih => simp only [andThen, ih]
  | fetch request rest ih => simp only [andThen, ih]
  | read key rest ih => simp only [andThen, ih]
  | write key value rest ih => simp only [andThen, ih]
  | erase key rest ih => simp only [andThen, ih]

private theorem id_map_flow (flow : Flow α) : id <$> flow = flow := by
  -- The monad hands on values alone, so values and faults are told apart.
  change flow.andThen _ = flow
  refine Eq.trans ?_ (andThen_done flow)
  congr
  funext result
  cases result <;> rfl

private theorem bind_assoc_flow (flow : Flow α) (next : α → Flow β) (last : β → Flow γ) :
    flow >>= next >>= last = flow >>= fun value => next value >>= last := by
  -- A bind is what follows a value, while a fault is passed on unchanged.
  change (flow.andThen _).andThen _ = flow.andThen _
  rw [andThen_andThen]
  congr
  funext result
  cases result <;> rfl

instance : LawfulMonad Flow :=
  LawfulMonad.mk' Flow id_map_flow (fun _ _ => rfl) bind_assoc_flow

/-- A value that is there already is handed on. -/
@[simp] theorem done_ok_bind (value : α) (next : α → Flow β) :
    done (.ok value) >>= next = next value := rfl

/-- What follows a flow runs from the state that the flow leaves. -/
theorem run_andThen (next : Except Fault α → Flow β) (flow : Flow α) (state : σ) :
    (flow.andThen next).run backend state =
      let first := flow.run backend state
      let second := (next first.result).run backend first.state
      ⟨second.result, second.state, first.requests ++ second.requests,
        first.events ++ second.events⟩ := by
  -- Every step of the flow is one of the whole; only its end is replaced.
  induction flow generalizing state with
  | done result => simp [andThen, run]
  | report event rest ih => simp [andThen, run, ih]
  | fetch request rest ih => simp [andThen, run, ih]
  | read key rest ih => simp [andThen, run, ih]
  | write key value rest ih => simp [andThen, run, ih]
  | erase key rest ih => simp [andThen, run, ih]

/-- What follows a value runs from the state that the first part leaves. -/
theorem run_bind_of_ok {backend : Backend σ} {next : α → Flow β} {flow : Flow α} {state : σ}
    {value : α} (ended : (flow.run backend state).result = .ok value) :
    (flow >>= next).run backend state =
      let first := flow.run backend state
      let second := (next value).run backend first.state
      ⟨second.result, second.state, first.requests ++ second.requests,
        first.events ++ second.events⟩ := by
  -- The first part ends in this value, which is what the rest is given.
  show (flow.andThen _).run backend state = _
  rw [run_andThen]
  dsimp only
  rw [ended]

/-- A fault of the first part is the end of the whole. -/
theorem run_bind_of_error {backend : Backend σ} {next : α → Flow β} {flow : Flow α} {state : σ}
    {fault : Fault} (ended : (flow.run backend state).result = .error fault) :
    (flow >>= next).run backend state =
      let first := flow.run backend state
      ⟨.error fault, first.state, first.requests, first.events⟩ := by
  -- The rest is done at once with the fault, and adds nothing.
  show (flow.andThen _).run backend state = _
  rw [run_andThen]
  dsimp only
  rw [ended]
  simp [run]

/-- A value is handed to what follows, and a fault is the result of the whole. -/
theorem run_bind_result (next : α → Flow β) (flow : Flow α) (state : σ) :
    ((flow >>= next).run backend state).result =
      match (flow.run backend state).result with
      | .ok value => ((next value).run backend (flow.run backend state).state).result
      | .error fault => .error fault := by
  -- The two ends of the first part.
  cases ended : (flow.run backend state).result with
  | ok value => rw [run_bind_of_ok ended]
  | error fault => rw [run_bind_of_error ended]

/-- A flow has a value when its first part has one and what follows has it from there. -/
theorem run_bind_eq_ok_iff {backend : Backend σ} {flow : Flow α} {next : α → Flow β} {state : σ}
    {last : β} :
    ((flow >>= next).run backend state).result = .ok last ↔
      ∃ value, (flow.run backend state).result = .ok value ∧
        ((next value).run backend (flow.run backend state).state).result = .ok last := by
  -- A fault of the first part would be the result.
  rw [run_bind_result]
  cases (flow.run backend state).result with
  | ok value => simp
  | error fault => simp

/-- What follows a value asks behind the first part; behind a fault nothing more is asked. -/
theorem run_bind_requests (next : α → Flow β) (flow : Flow α) (state : σ) :
    ((flow >>= next).run backend state).requests =
      (flow.run backend state).requests ++
        match (flow.run backend state).result with
        | .ok value => ((next value).run backend (flow.run backend state).state).requests
        | .error _ => [] := by
  -- The two ends of the first part.
  cases ended : (flow.run backend state).result with
  | ok value => rw [run_bind_of_ok ended]
  | error fault => rw [run_bind_of_error ended, List.append_nil]

/-- The requests of a flow are those of its fetches. -/
theorem run_requests_eq (flow : Flow α) (state : σ) :
    (flow.run backend state).requests = (flow.fetches backend state).map Fetched.request := by
  -- By induction on the flow: each fetch has its request, and no other step asks.
  induction flow generalizing state with
  | done result => rfl
  | report event rest ih => exact ih state
  | fetch request rest ih => exact congrArg (request :: ·) (ih _ _)
  | read key rest ih => exact ih _ _
  | write key value rest ih => exact ih _ _
  | erase key rest ih => exact ih _ _

/-- What follows a flow is answered behind the flow. -/
theorem fetches_andThen (next : Except Fault α → Flow β) (flow : Flow α) (state : σ) :
    (flow.andThen next).fetches backend state =
      flow.fetches backend state ++
        (next (flow.run backend state).result).fetches backend (flow.run backend state).state := by
  -- By induction on the first flow, along the states that its steps lead to.
  induction flow generalizing state with
  | done result => rfl
  | report event rest ih => exact ih state
  | fetch request rest ih => exact congrArg (Fetched.mk request _ :: ·) (ih _ _)
  | read key rest ih => exact ih _ _
  | write key value rest ih => exact ih _ _
  | erase key rest ih => exact ih _ _

/-- What follows a value is answered behind the first part; behind a fault nothing more is. -/
theorem fetches_bind (next : α → Flow β) (flow : Flow α) (state : σ) :
    (flow >>= next).fetches backend state =
      flow.fetches backend state ++
        match (flow.run backend state).result with
        | .ok value => (next value).fetches backend (flow.run backend state).state
        | .error _ => [] := by
  -- A fault is done with, which fetches nothing.
  show (flow.andThen _).fetches backend state = _
  rw [fetches_andThen]
  cases (flow.run backend state).result with
  | ok value => rfl
  | error fault => rfl

/-- A request runs as the backend answers it. -/
theorem run_request (request : Request) (cause : TransportFault → Fault) (state : σ) :
    (Flow.request request cause).run backend state =
      let (response, after) := backend.fetch request state
      ⟨response.mapError cause, after, [request], []⟩ := rfl

/-- Reports change no fetch of what they report. -/
theorem fetches_observe (kind : FlowKind) (stage : Text) (flow : Flow α) (state : σ) :
    (observe kind stage flow).fetches backend state = flow.fetches backend state := by
  -- The report at the end is no fetch, and neither is the one in front.
  show (flow.andThen _).fetches backend state = _
  rw [fetches_andThen]
  exact List.append_nil _

/-- Reports do not change the result of what they report. -/
theorem run_observe_result (kind : FlowKind) (stage : Text) (flow : Flow α) (state : σ) :
    ((observe kind stage flow).run backend state).result = (flow.run backend state).result := by
  simp [observe, run, run_andThen]

/-- Reports ask nothing of the backend. -/
theorem run_observe_requests (kind : FlowKind) (stage : Text) (flow : Flow α) (state : σ) :
    ((observe kind stage flow).run backend state).requests =
      (flow.run backend state).requests := by
  simp [observe, run, run_andThen]

/-- The flow whose result, a value or a fault, goes to its caller, who then goes on. -/
def dismiss (flow : Flow α) : Flow Unit := flow.andThen fun _ => done (.ok ())

/-- A dismissed flow runs like the flow itself, and never fails. -/
theorem run_dismiss (flow : Flow α) (state : σ) :
    flow.dismiss.run backend state =
      let ran := flow.run backend state
      ⟨.ok (), ran.state, ran.requests, ran.events⟩ := by
  simp [dismiss, run_andThen, run]

/-- A dismissed flow has no fault. -/
theorem run_dismiss_result (flow : Flow α) (state : σ) :
    (flow.dismiss.run backend state).result = .ok () := by
  rw [run_dismiss]

end Flow

end RelyingParty
