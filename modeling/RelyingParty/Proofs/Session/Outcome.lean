import Mathlib.Logic.Function.Basic
import RelyingParty.Proofs.Flow
import RelyingParty.Proofs.Table
import RelyingParty.Session.Store

/-! A session may refuse any access; a flow may then end in several ways. -/

namespace RelyingParty

/-- What a session holds, by key. -/
abbrev Values := Text → Option Json

/-- The values after the change of one, which may have been refused. -/
def Values.changed (outcome : Except SessionFault Unit) (key : Text) (found : Option Json)
    (values : Values) : Values :=
  match outcome with
  | .ok () => Function.update values key found
  -- A refused change leaves all as it was.
  | .error _ => values

/-- A backend that holds values by key. It may refuse some kinds of access, and an access that is
refused changes nothing. -/
structure Session (σ : Type) where
  backend : Backend σ
  mayRefuse : Access → Prop
  values : σ → Values
  values_fetch : ∀ request state, values (backend.fetch request state).2 = values state
  values_read : ∀ key state, values (backend.read key state).2 = values state
  read_found : ∀ key state found, (backend.read key state).1 = .ok found → found = values state key
  read_refused : ∀ key state fault, (backend.read key state).1 = .error fault → mayRefuse .get
  write_refused : ∀ key json state fault,
    (backend.write key json state).1 = .error fault → mayRefuse .set
  erase_refused : ∀ key state fault, (backend.erase key state).1 = .error fault → mayRefuse .delete
  values_write : ∀ key json state, values (backend.write key json state).2 =
    (values state).changed (backend.write key json state).1 key (some json)
  values_erase : ∀ key state, values (backend.erase key state).2 =
    (values state).changed (backend.erase key state).1 key none

/-- The store in memory as a session, whatever it refuses. -/
def Store.session (fetch : Request → Except TransportFault Response) : Session Store where
  backend := {
    fetch := fun request store => (fetch request, store)
    read := Store.get
    write := Store.set
    erase := Store.delete
  }
  mayRefuse _ := True
  values store key := Table.get? key store.values
  values_fetch _ _ := rfl
  values_read key store := by
    by_cases refused : store.refused = some .get <;> simp [Store.get, Store.allow, refused]
  read_found key store found granted := by
    by_cases refused : store.refused = some .get <;>
      simp_all [Store.get, Store.allow]
  read_refused _ _ _ _ := trivial
  write_refused _ _ _ _ _ := trivial
  erase_refused _ _ _ _ := trivial
  values_write key json store := by
    by_cases refused : store.refused = some .set
    · simp [Store.set, Store.allow, Values.changed, refused]
    · funext wanted
      simp [Store.set, Store.allow, Values.changed, refused, Table.get?_insert,
        Function.update_apply, eq_comm]
  values_erase key store := by
    by_cases refused : store.refused = some .delete
    · simp [Store.delete, Store.allow, Values.changed, refused]
    · funext wanted
      simp [Store.delete, Store.allow, Values.changed, refused, Table.get?_erase,
        Function.update_apply, eq_comm]

namespace Session

variable {σ α : Type}

/-- The answer to an access, unless the next mark says that it is refused. -/
def interrupt (answer : Except SessionFault α × σ) (state : σ × List Bool) :
    Except SessionFault α × (σ × List Bool) :=
  if state.2.head? = some true then
    (.error (.backend "interrupted"), (state.1, state.2.tail))
  else (answer.1, (answer.2, state.2.tail))

/-- A session with a list of marks, one for each access to come; marked accesses are refused. -/
def interrupted (session : Session σ) : Session (σ × List Bool) where
  backend := {
    fetch := fun request state =>
      let answer := session.backend.fetch request state.1
      (answer.1, (answer.2, state.2))
    read := fun key state => interrupt (session.backend.read key state.1) state
    write := fun key json state => interrupt (session.backend.write key json state.1) state
    erase := fun key state => interrupt (session.backend.erase key state.1) state
  }
  mayRefuse _ := True
  values state := session.values state.1
  values_fetch request state := session.values_fetch request state.1
  values_read key state := by
    by_cases marked : state.2.head? = some true <;>
      simp [interrupt, marked, session.values_read]
  read_found key state found granted := by
    by_cases marked : state.2.head? = some true <;> simp [interrupt, marked] at granted
    exact session.read_found key state.1 found granted
  read_refused _ _ _ _ := trivial
  write_refused _ _ _ _ _ := trivial
  erase_refused _ _ _ _ := trivial
  values_write key json state := by
    by_cases marked : state.2.head? = some true <;>
      simp [interrupt, marked, session.values_write, Values.changed]
  values_erase key state := by
    by_cases marked : state.2.head? = some true <;>
      simp [interrupt, marked, session.values_erase, Values.changed]

end Session

namespace Flow

variable {α β : Type}

/-- How a flow may end on a session with some values: with which result, which values, and which
requests. Some kinds of access may be refused. -/
def MayEnd (refuses : Access → Prop) :
    Flow α → Values → Except Fault α → Values → List Request → Prop
  | done result, before, ended, after, requests =>
    ended = result ∧ after = before ∧ requests = []
  | report _ next, before, ended, after, requests =>
    next.MayEnd refuses before ended after requests
  | fetch request next, before, ended, after, requests =>
    ∃ response rest, requests = request :: rest ∧
      (next response).MayEnd refuses before ended after rest
  -- What is read is what is stored, or the reading is refused.
  | read key next, before, ended, after, requests =>
    (next (.ok (before key))).MayEnd refuses before ended after requests ∨
      refuses .get ∧ ∃ fault, (next (.error fault)).MayEnd refuses before ended after requests
  | write key json next, before, ended, after, requests =>
    (next (.ok ())).MayEnd refuses (Function.update before key (some json)) ended after requests ∨
      refuses .set ∧ ∃ fault, (next (.error fault)).MayEnd refuses before ended after requests
  | erase key next, before, ended, after, requests =>
    (next (.ok ())).MayEnd refuses (Function.update before key none) ended after requests ∨
      refuses .delete ∧ ∃ fault, (next (.error fault)).MayEnd refuses before ended after requests

/-- A run on a session ends in one of the ways in which it may end. -/
theorem run_mayEnd {σ : Type} (session : Session σ) (flow : Flow α) (state : σ) :
    flow.MayEnd session.mayRefuse (session.values state) (flow.run session.backend state).result
      (session.values (flow.run session.backend state).state)
      (flow.run session.backend state).requests := by
  -- Each access either was granted or was refused, and both ways are among those that may be.
  induction flow generalizing state with
  | done result => exact ⟨rfl, rfl, rfl⟩
  | report event next ih => exact ih state
  | fetch request next ih =>
    have rest := ih (session.backend.fetch request state).1 (session.backend.fetch request state).2
    rw [session.values_fetch] at rest
    exact ⟨_, _, rfl, rest⟩
  | read key next ih =>
    have rest := ih (session.backend.read key state).1 (session.backend.read key state).2
    rw [session.values_read] at rest
    cases answer : (session.backend.read key state).1 with
    | ok found =>
      rw [answer] at rest
      -- What is read is the value that is stored.
      have same := session.read_found key state found answer
      subst same
      exact .inl (by simpa [run, answer] using rest)
    | error fault =>
      rw [answer] at rest
      exact .inr ⟨session.read_refused key state fault answer, fault,
        by simpa [run, answer] using rest⟩
  | write key json next ih =>
    have rest := ih (session.backend.write key json state).1
      (session.backend.write key json state).2
    rw [session.values_write] at rest
    cases answer : (session.backend.write key json state).1 with
    | ok done =>
      rw [answer] at rest
      exact .inl (by simpa [run, answer, Values.changed] using rest)
    | error fault =>
      rw [answer] at rest
      exact .inr ⟨session.write_refused key json state fault answer, fault,
        by simpa [run, answer, Values.changed] using rest⟩
  | erase key next ih =>
    have rest := ih (session.backend.erase key state).1 (session.backend.erase key state).2
    rw [session.values_erase] at rest
    cases answer : (session.backend.erase key state).1 with
    | ok done =>
      rw [answer] at rest
      exact .inl (by simpa [run, answer, Values.changed] using rest)
    | error fault =>
      rw [answer] at rest
      exact .inr ⟨session.erase_refused key state fault answer, fault,
        by simpa [run, answer, Values.changed] using rest⟩

variable {refuses : Access → Prop} {before after : Values} {requests : List Request}

/-- What follows a flow starts from the values that the flow leaves. -/
theorem mayEnd_andThen {flow : Flow α} {next : Except Fault α → Flow β} {ended : Except Fault β} :
    (flow.andThen next).MayEnd refuses before ended after requests ↔
      ∃ result middle early late, flow.MayEnd refuses before result middle early ∧
        (next result).MayEnd refuses middle ended after late ∧ requests = early ++ late := by
  -- What an access leaves is where the rest starts, in the first part as in the whole.
  induction flow generalizing before requests with
  | done result =>
    constructor
    · intro ends
      exact ⟨result, before, [], requests, ⟨rfl, rfl, rfl⟩, ends, rfl⟩
    · rintro ⟨_, _, _, late, ⟨rfl, rfl, rfl⟩, ends, rfl⟩
      exact ends
  | report event rest ih => exact ih
  | fetch request rest ih =>
    simp only [andThen, MayEnd, ih]
    constructor
    · rintro ⟨response, _, rfl, result, middle, early, late, first, second, rfl⟩
      exact ⟨result, middle, request :: early, late, ⟨response, early, rfl, first⟩, second, rfl⟩
    · rintro ⟨result, middle, _, late, ⟨response, early, rfl, first⟩, second, rfl⟩
      exact ⟨response, early ++ late, rfl, result, middle, early, late, first, second, rfl⟩
  | read key rest ih => simp only [andThen, MayEnd, ih]; grind
  | write key json rest ih => simp only [andThen, MayEnd, ih]; grind
  | erase key rest ih => simp only [andThen, MayEnd, ih]; grind

/-- A fault ends the whole, and a value is handed to what follows. -/
theorem mayEnd_bind {flow : Flow α} {next : α → Flow β} {ended : Except Fault β} :
    (flow >>= next).MayEnd refuses before ended after requests ↔
      (∃ fault, flow.MayEnd refuses before (.error fault) after requests ∧
        ended = .error fault) ∨
      ∃ value middle early late, flow.MayEnd refuses before (.ok value) middle early ∧
        (next value).MayEnd refuses middle ended after late ∧ requests = early ++ late := by
  change (flow.andThen _).MayEnd refuses before ended after requests ↔ _
  rw [mayEnd_andThen]
  -- A fault of the first part makes no request and no change any more.
  constructor
  · rintro ⟨result, middle, early, late, first, second, rfl⟩
    cases result with
    | ok value => exact .inr ⟨value, middle, early, late, first, second, rfl⟩
    | error fault =>
      obtain ⟨rfl, rfl, rfl⟩ := second
      exact .inl ⟨fault, by simpa using first, rfl⟩
  · rintro (⟨fault, first, rfl⟩ | ⟨value, middle, early, late, first, second, rfl⟩)
    · exact ⟨.error fault, after, requests, [], first, ⟨rfl, rfl, rfl⟩, by simp⟩
    · exact ⟨.ok value, middle, early, late, first, second, rfl⟩

/-- What is made of a value does not change how a flow may end. -/
theorem mayEnd_map {flow : Flow α} {make : α → β} {ended : Except Fault β} :
    (make <$> flow).MayEnd refuses before ended after requests ↔
      ∃ result, flow.MayEnd refuses before result after requests ∧ ended = result.map make := by
  -- Behind the value there is nothing that could fail or ask.
  rw [map_eq_pure_bind, mayEnd_bind]
  constructor
  · rintro (⟨fault, ends, rfl⟩ | ⟨value, _, _, _, ends, ⟨rfl, rfl, rfl⟩, rfl⟩)
    · exact ⟨.error fault, ends, rfl⟩
    · exact ⟨.ok value, by simpa using ends, rfl⟩
  · rintro ⟨result, ends, rfl⟩
    cases result with
    | error fault => exact .inl ⟨fault, ends, rfl⟩
    | ok value => exact .inr ⟨value, after, requests, [], ends, ⟨rfl, rfl, rfl⟩, by simp⟩

/-- A flow fails in the same ways, whatever is made of its values. -/
theorem mayEnd_map_error {flow : Flow α} {make : α → β} {fault : Fault} :
    (make <$> flow).MayEnd refuses before (.error fault) after requests ↔
      flow.MayEnd refuses before (.error fault) after requests := by
  -- A value is no fault, whatever is made of it.
  rw [mayEnd_map]
  constructor
  · rintro ⟨result, ends, failed⟩
    cases result with
    | ok value => cases failed
    | error other =>
      cases failed
      exact ends
  · intro ends
    exact ⟨.error fault, ends, rfl⟩

/-- A value ends a flow at once. -/
@[simp] theorem mayEnd_pure {value : α} {ended : Except Fault α} :
    (pure value : Flow α).MayEnd refuses before ended after requests ↔
      ended = .ok value ∧ after = before ∧ requests = [] := Iff.rfl

/-- A report does not change how a flow may end. -/
@[simp] theorem mayEnd_report_bind {event : Event} {flow : Flow α} {next : α → Flow β}
    {ended : Except Fault β} :
    (report event flow >>= next).MayEnd refuses before ended after requests ↔
      (flow >>= next).MayEnd refuses before ended after requests := Iff.rfl

/-- How a flow ends at an access that is refused: with a fault of the session, and no change. -/
def Stopped (refused : Prop) (before : Values) (ended : Except Fault α) (after : Values)
    (requests : List Request) : Prop :=
  refused ∧ (∃ fault, ended = .error (.session fault)) ∧ after = before ∧ requests = []

/-- What follows a reading goes on with the value, unless reading is refused. -/
theorem mayEnd_stored_bind {key : Text} {next : Option Json → Flow β} {ended : Except Fault β} :
    (stored key >>= next).MayEnd refuses before ended after requests ↔
      (next (before key)).MayEnd refuses before ended after requests ∨
        Stopped (refuses .get) before ended after requests := by
  -- A reading is granted or refused; where it is refused, the flow stops with the refusal.
  change (andThen _ (read key fun value => done (value.mapError .session))).MayEnd _ _ _ _ _ ↔ _
  simp only [andThen, MayEnd, mapError_ok, mapError_error, Stopped]
  grind

/-- What follows a writing goes on from the new values, unless writing is refused. -/
theorem mayEnd_store_bind {key : Text} {json : Json} {next : Unit → Flow β}
    {ended : Except Fault β} :
    (store key json >>= next).MayEnd refuses before ended after requests ↔
      (next ()).MayEnd refuses (Function.update before key (some json)) ended after requests ∨
        Stopped (refuses .set) before ended after requests := by
  -- The same with a writing, which changes one value when it is granted.
  change (andThen _ (write key json fun outcome => done (outcome.mapError .session))).MayEnd
    _ _ _ _ _ ↔ _
  simp only [andThen, MayEnd, mapError_ok, mapError_error, Stopped]
  grind

/-- What follows a removal goes on from the new values, unless removal is refused. -/
theorem mayEnd_forget_bind {key : Text} {next : Unit → Flow β} {ended : Except Fault β} :
    (forget key >>= next).MayEnd refuses before ended after requests ↔
      (next ()).MayEnd refuses (Function.update before key none) ended after requests ∨
        Stopped (refuses .delete) before ended after requests := by
  -- The same with a removal.
  change (andThen _ (erase key fun outcome => done (outcome.mapError .session))).MayEnd
    _ _ _ _ _ ↔ _
  simp only [andThen, MayEnd, mapError_ok, mapError_error, Stopped]
  grind

end Flow

end RelyingParty
