import RelyingParty.Proofs.Flow

/-! A flow may be confined to some requests and some reports, whatever it is answered. -/

namespace RelyingParty.Flow

variable {α β : Type}

/-- Whether a flow asks and tells only what it may, whatever it is answered. -/
def Confined (asks : Request → Prop) (tells : Event → Prop) : Flow α → Prop
  | done _ => True
  | report event next => tells event ∧ next.Confined asks tells
  | fetch request next => asks request ∧ ∀ answer, (next answer).Confined asks tells
  | read _ next => ∀ found, (next found).Confined asks tells
  | write _ _ next => ∀ outcome, (next outcome).Confined asks tells
  | erase _ next => ∀ outcome, (next outcome).Confined asks tells

variable {asks asks' : Request → Prop} {tells tells' : Event → Prop}

/-- A result asks and tells nothing. -/
theorem confined_done (result : Except Fault α) : (done result).Confined asks tells := trivial

/-- A request with a cause for its fault is a request. -/
theorem confined_request {request : Request} {cause : TransportFault → Fault}
    (may : asks request) : (Flow.request request cause).Confined asks tells :=
  ⟨may, fun _ => trivial⟩

/-- Reading the session asks and tells nothing. -/
theorem confined_stored (key : Text) : (stored key).Confined asks tells := fun _ => trivial

/-- Writing the session asks and tells nothing. -/
theorem confined_store (key : Text) (value : Json) : (store key value).Confined asks tells :=
  fun _ => trivial

/-- Removing a key asks and tells nothing. -/
theorem confined_forget (key : Text) : (forget key).Confined asks tells := fun _ => trivial

namespace Confined

/-- What is confined stays so when more may be asked and told. -/
theorem mono {flow : Flow α} (confined : flow.Confined asks tells)
    (wider : ∀ request, asks request → asks' request)
    (louder : ∀ event, tells event → tells' event) : flow.Confined asks' tells' := by
  -- By induction on the flow, step by step.
  induction flow with
  | done result => trivial
  | report event rest ih => exact ⟨louder event confined.1, ih confined.2⟩
  | fetch request rest ih =>
    exact ⟨wider request confined.1, fun answer => ih answer (confined.2 answer)⟩
  | read key rest ih => exact fun found => ih found (confined found)
  | write key value rest ih => exact fun outcome => ih outcome (confined outcome)
  | erase key rest ih => exact fun outcome => ih outcome (confined outcome)

/-- A flow is confined when its first part is and whatever follows a result of it. -/
theorem andThen {flow : Flow α} {next : Except Fault α → Flow β}
    (first : flow.Confined asks tells) (second : ∀ result, (next result).Confined asks tells) :
    (flow.andThen next).Confined asks tells := by
  -- Every step of the first part stays in place; only its end is replaced.
  induction flow with
  | done result => exact second result
  | report event rest ih => exact ⟨first.1, ih first.2⟩
  | fetch request rest ih => exact ⟨first.1, fun answer => ih answer (first.2 answer)⟩
  | read key rest ih => exact fun found => ih found (first found)
  | write key value rest ih => exact fun outcome => ih outcome (first outcome)
  | erase key rest ih => exact fun outcome => ih outcome (first outcome)

/-- A flow is confined when its first part is and whatever follows a value of it. -/
theorem bind {flow : Flow α} {next : α → Flow β} (first : flow.Confined asks tells)
    (second : ∀ value, (next value).Confined asks tells) :
    (flow >>= next).Confined asks tells := by
  -- A fault ends the flow, and then nothing is asked or told.
  refine first.andThen fun result => ?_
  cases result with
  | ok value => exact second value
  | error fault => trivial

/-- A flow whose result is dismissed is as confined as before. -/
theorem dismiss {flow : Flow α} (confined : flow.Confined asks tells) :
    flow.dismiss.Confined asks tells :=
  confined.andThen fun _ => trivial

/-- An observed flow is as confined as before when any report may be made. -/
theorem observe {flow : Flow α} (kind : FlowKind) (stage : Text)
    (confined : flow.Confined asks tells) :
    (Flow.observe kind stage flow).Confined asks fun _ => True := by
  -- The two reports of the chain stand around the flow.
  refine ⟨trivial, trivial, ?_⟩
  exact (confined.mono (fun _ may => may) fun _ _ => trivial).andThen fun _ => ⟨trivial, trivial⟩

/-- What a confined flow asks and tells in a run is what it may. -/
theorem run {σ : Type} {flow : Flow α} (confined : flow.Confined asks tells)
    (backend : Backend σ) (state : σ) :
    (∀ request ∈ (flow.run backend state).requests, asks request) ∧
      ∀ event ∈ (flow.run backend state).events, tells event := by
  -- The run takes one of the ways through the flow, and all of them are confined.
  induction flow generalizing state with
  | done result => simp [Flow.run]
  | report event rest ih => simpa [Flow.run, confined.1] using ih confined.2 state
  | fetch request rest ih => simpa [Flow.run, confined.1] using ih _ (confined.2 _) _
  | read key rest ih => exact ih _ (confined _) _
  | write key value rest ih => exact ih _ (confined _) _
  | erase key rest ih => exact ih _ (confined _) _

end Confined

end RelyingParty.Flow
