import RelyingParty.Proofs.Session.Outcome

/-! Two runs of a flow on one session differ only as far as the flow tells apart what it reads
there. -/

namespace RelyingParty

variable {σ α β : Type}

/-- Whether values agree under every key but one, where they are related. -/
structure Values.AgreeBut (key : Text) (same : Option Json → Option Json → Prop)
    (values other : Values) : Prop where
  here : same (values key) (other key)
  elsewhere : ∀ wanted, wanted ≠ key → values wanted = other wanted

namespace Values.AgreeBut

variable {key : Text} {same : Option Json → Option Json → Prop} {values other : Values}

/-- Values that agree under the one key as well are the same. -/
theorem eq_of_here (agree : AgreeBut key same values other) (here : values key = other key) :
    values = other := by
  funext wanted
  -- There is no other key where they could differ.
  by_cases hit : wanted = key
  · rw [hit, here]
  · exact agree.elsewhere wanted hit

/-- Values still agree when the one key is set alike in both, or the change is refused in both. -/
theorem changed (agree : AgreeBut key same values other) (refl : ∀ found, same found found)
    (outcome : Except SessionFault Unit) (found : Option Json) :
    AgreeBut key same (values.changed outcome key found) (other.changed outcome key found) := by
  cases outcome with
  | error fault => exact agree
  | ok done =>
    refine ⟨?_, fun wanted apart => ?_⟩
    · -- What is set is related to itself.
      simpa [Values.changed] using refl found
    · simpa [Values.changed, apart] using agree.elsewhere wanted apart

end Values.AgreeBut

/-- Whether two answers to a reading are both granted, or refused with the same fault. -/
inductive SameRefusal : Except SessionFault α → Except SessionFault α → Prop
  | granted (value other : α) : SameRefusal (.ok value) (.ok other)
  | refused (fault : SessionFault) : SameRefusal (.error fault) (.error fault)

namespace Session

/-- Whether paired states of a session refuse the same accesses, and lead to paired states. -/
structure Mirrored (session : Session σ) (paired : σ → σ → Prop) : Prop where
  fetch : ∀ request {state other}, paired state other →
    paired (session.backend.fetch request state).2 (session.backend.fetch request other).2
  -- What is found may differ, but not whether reading is refused.
  read : ∀ key {state other}, paired state other →
    SameRefusal (session.backend.read key state).1 (session.backend.read key other).1 ∧
      paired (session.backend.read key state).2 (session.backend.read key other).2
  write : ∀ key json {state other}, paired state other →
    (session.backend.write key json state).1 = (session.backend.write key json other).1 ∧
      paired (session.backend.write key json state).2 (session.backend.write key json other).2
  erase : ∀ key {state other}, paired state other →
    (session.backend.erase key state).1 = (session.backend.erase key other).1 ∧
      paired (session.backend.erase key state).2 (session.backend.erase key other).2

/-- Whether a session refuses the same accesses from two states on, whatever is stored there. -/
def RefusesAlike (session : Session σ) (state other : σ) : Prop :=
  ∃ paired, session.Mirrored paired ∧ paired state other

/-- A store in memory refuses the same accesses whatever values it holds. -/
theorem refusesAlike_store (fetch : Request → Except TransportFault Response)
    (refused : Option Access) (values values' : Table Json) :
    (Store.session fetch).RefusesAlike ⟨values, refused⟩ ⟨values', refused⟩ := by
  -- What is refused depends on the kind of access alone, and no access changes it.
  refine ⟨fun state other => state.refused = other.refused, ⟨?_, ?_, ?_, ?_⟩, rfl⟩
  · -- A fetch leaves the store as it is.
    exact fun request _ _ pair => pair
  · rintro key ⟨values, refused⟩ ⟨values', _⟩ ⟨rfl⟩
    simp only [Store.session, Store.get, Store.allow]
    split
    · exact ⟨.refused _, rfl⟩
    · exact ⟨.granted _ _, rfl⟩
  · rintro key json ⟨values, refused⟩ ⟨values', _⟩ ⟨rfl⟩
    simp only [Store.session, Store.set, Store.allow]
    split
    · exact ⟨rfl, rfl⟩
    · exact ⟨rfl, rfl⟩
  · rintro key ⟨values, refused⟩ ⟨values', _⟩ ⟨rfl⟩
    simp only [Store.session, Store.delete, Store.allow]
    split
    · exact ⟨rfl, rfl⟩
    · exact ⟨rfl, rfl⟩

/-- A session that refuses the same accesses does so too when others are interrupted. -/
theorem RefusesAlike.interrupted {session : Session σ} {state other : σ}
    (alike : session.RefusesAlike state other) (marks : List Bool) :
    session.interrupted.RefusesAlike (state, marks) (other, marks) := by
  obtain ⟨paired, mirrored, pair⟩ := alike
  -- The same mark stands before each access, and interrupts it in both states or in none.
  refine ⟨fun state other => paired state.1 other.1 ∧ state.2 = other.2, ⟨?_, ?_, ?_, ?_⟩,
    pair, rfl⟩
  · rintro request ⟨state, marks⟩ ⟨other, _⟩ ⟨pair, rfl⟩
    exact ⟨mirrored.fetch request pair, rfl⟩
  · rintro key ⟨state, marks⟩ ⟨other, _⟩ ⟨pair, rfl⟩
    simp only [Session.interrupted, interrupt]
    split
    · -- An interrupted access is refused in both states.
      exact ⟨.refused _, pair, rfl⟩
    · exact ⟨(mirrored.read key pair).1, (mirrored.read key pair).2, rfl⟩
  · rintro key json ⟨state, marks⟩ ⟨other, _⟩ ⟨pair, rfl⟩
    simp only [Session.interrupted, interrupt]
    split
    · exact ⟨rfl, pair, rfl⟩
    · exact ⟨(mirrored.write key json pair).1, (mirrored.write key json pair).2, rfl⟩
  · rintro key ⟨state, marks⟩ ⟨other, _⟩ ⟨pair, rfl⟩
    simp only [Session.interrupted, interrupt]
    split
    · exact ⟨rfl, pair, rfl⟩
    · exact ⟨(mirrored.erase key pair).1, (mirrored.erase key pair).2, rfl⟩

namespace Mirrored

variable {session : Session σ} {paired : σ → σ → Prop} {key : Text}
  {same : Option Json → Option Json → Prop} {state other : σ}

/-- What is read in paired states with related values is related, unless it is refused in both. -/
theorem found_or_refused (mirrored : session.Mirrored paired) (pair : paired state other)
    (related : same (session.values state key) (session.values other key)) :
    (∃ found found', (session.backend.read key state).1 = .ok found ∧
        (session.backend.read key other).1 = .ok found' ∧ same found found') ∨
      ∃ fault, (session.backend.read key state).1 = .error fault ∧
        (session.backend.read key other).1 = .error fault := by
  obtain ⟨refusal, _⟩ := mirrored.read key pair
  generalize first : (session.backend.read key state).1 = answer at refusal
  generalize second : (session.backend.read key other).1 = answer' at refusal
  cases refusal with
  | granted found found' =>
    -- What is granted is what the session holds.
    rw [← session.read_found key state found first,
      ← session.read_found key other found' second] at related
    exact .inl ⟨found, found', rfl, rfl, related⟩
  | refused fault => exact .inr ⟨fault, rfl, rfl⟩

end Mirrored

end Session

namespace Flow

/-- Whether two flows, which use no key of the session but one, do the same apart from their
reports, when `same` relates what they find under the key. They do not look at the answers to their
requests, so these may be different. -/
inductive Alike (key : Text) (same : Option Json → Option Json → Prop) : Flow α → Flow α → Prop
  | done (result : Except Fault α) : Alike key same (done result) (done result)
  -- Reports may be left out on either side.
  | reportFirst (event : Event) {flow other : Flow α} (rest : Alike key same flow other) :
    Alike key same (report event flow) other
  | reportSecond (event : Event) {flow other : Flow α} (rest : Alike key same flow other) :
    Alike key same flow (report event other)
  | fetch (request : Request) {next other : Except TransportFault Response → Flow α}
    (rest : ∀ answer answer', Alike key same (next answer) (other answer')) :
    Alike key same (fetch request next) (fetch request other)
  -- Related values are met alike, and so are refusals, whose wording reaches the result.
  | read {next other : Except SessionFault (Option Json) → Flow α}
    (found : ∀ value value', same value value' →
      Alike key same (next (.ok value)) (other (.ok value')))
    (refused : ∀ fault, Alike key same (next (.error fault)) (other (.error fault))) :
    Alike key same (read key next) (read key other)
  | write (json : Json) {next other : Except SessionFault Unit → Flow α}
    (rest : ∀ outcome, Alike key same (next outcome) (other outcome)) :
    Alike key same (write key json next) (write key json other)
  | erase {next other : Except SessionFault Unit → Flow α}
    (rest : ∀ outcome, Alike key same (next outcome) (other outcome)) :
    Alike key same (erase key next) (erase key other)

/-- Whether two runs end alike: with the same result and the same requests, in paired states whose
values agree but under a key, where they are related. -/
structure EndsAlike (session : Session σ) (paired : σ → σ → Prop) (key : Text)
    (same : Option Json → Option Json → Prop) (ran other : Ran σ α) : Prop where
  result : ran.result = other.result
  requests : ran.requests = other.requests
  paired : paired ran.state other.state
  agree : Values.AgreeBut key same (session.values ran.state) (session.values other.state)

namespace Alike

variable {key : Text} {same : Option Json → Option Json → Prop}

/-- What follows alike flows is alike when it is after every result. -/
theorem andThen {flow other : Flow α} {next next' : Except Fault α → Flow β}
    (first : Alike key same flow other)
    (second : ∀ result, Alike key same (next result) (next' result)) :
    Alike key same (flow.andThen next) (other.andThen next') := by
  -- The steps of the first parts are steps of the wholes, and what follows replaces their ends.
  induction first with
  | done result => exact second result
  | reportFirst event rest ih => exact .reportFirst event ih
  | reportSecond event rest ih => exact .reportSecond event ih
  | fetch request rest ih => exact .fetch request ih
  | read found refused foundIh refusedIh => exact .read foundIh refusedIh
  | write json rest ih => exact .write json ih
  | erase rest ih => exact .erase ih

/-- What follows a value of alike flows is alike when it is after every value. -/
theorem bind {flow other : Flow α} {next next' : α → Flow β}
    (first : Alike key same flow other)
    (second : ∀ value, Alike key same (next value) (next' value)) :
    Alike key same (flow >>= next) (other >>= next') := by
  refine first.andThen fun result => ?_
  -- A fault ends both.
  cases result with
  | ok value => exact second value
  | error fault => exact .done (.error fault)

/-- What is made of the values of alike flows is alike. -/
theorem map {flow other : Flow α} (first : Alike key same flow other) (make : α → β) :
    Alike key same (make <$> flow) (make <$> other) := by
  -- To make something of a value is to be done with it.
  rw [map_eq_pure_bind, map_eq_pure_bind]
  exact first.bind fun value => .done (.ok (make value))

/-- Putting a value under the key is the same, whatever stands there. -/
theorem store (json : Json) : Alike key same (Flow.store key json) (Flow.store key json) :=
  .write json fun outcome => .done (outcome.mapError .session)

/-- Removing the key is the same, whatever stands there. -/
theorem forget : Alike key same (Flow.forget key) (Flow.forget key) :=
  .erase fun outcome => .done (outcome.mapError .session)

/-- What follows a reading is alike when it is so after related values. -/
theorem stored_bind {next next' : Option Json → Flow α}
    (found : ∀ value value', same value value' → Alike key same (next value) (next' value')) :
    Alike key same (stored key >>= next) (stored key >>= next') :=
  .read found fun fault => .done (.error (.session fault))

/-- Alike flows end alike from paired states whose values agree but under the key. -/
theorem run {flow other : Flow α} (alike : Alike key same flow other)
    (refl : ∀ found, same found found) {session : Session σ} {paired : σ → σ → Prop}
    (mirrored : session.Mirrored paired) {state state' : σ} (pair : paired state state')
    (agree : Values.AgreeBut key same (session.values state) (session.values state')) :
    EndsAlike session paired key same (flow.run session.backend state)
      (other.run session.backend state') := by
  -- Paired states answer each access alike, and what is written is related to itself.
  induction alike generalizing state state' with
  | done result => exact ⟨rfl, rfl, pair, agree⟩
  | reportFirst event rest ih =>
    obtain ⟨result, requests, after, kept⟩ := ih pair agree
    exact ⟨result, requests, after, kept⟩
  | reportSecond event rest ih =>
    obtain ⟨result, requests, after, kept⟩ := ih pair agree
    exact ⟨result, requests, after, kept⟩
  | fetch request rest ih =>
    -- The answers may be different ones, which neither flow looks at.
    rw [← session.values_fetch request state, ← session.values_fetch request state'] at agree
    obtain ⟨result, requests, after, kept⟩ := ih (session.backend.fetch request state).1
      (session.backend.fetch request state').1 (mirrored.fetch request pair) agree
    exact ⟨result, congrArg (request :: ·) requests, after, kept⟩
  | read found refused foundIh refusedIh =>
    -- A reading leaves the values as they are, so what it finds is related.
    have after := (mirrored.read key pair).2
    have kept := agree
    rw [← session.values_read key state, ← session.values_read key state'] at kept
    simp only [Flow.run]
    rcases mirrored.found_or_refused pair agree.here with
      ⟨value, value', first, second, together⟩ | ⟨fault, first, second⟩
    · rw [first, second]
      exact foundIh value value' together after kept
    · rw [first, second]
      exact refusedIh fault after kept
  | write json rest ih =>
    -- Both writings are granted, or both are refused with the same fault.
    obtain ⟨answer, after⟩ := mirrored.write key json pair
    have kept := agree.changed refl (session.backend.write key json state').1 (some json)
    rw [← session.values_write, ← answer, ← session.values_write] at kept
    simp only [Flow.run]
    rw [answer]
    exact ih _ after kept
  | erase rest ih =>
    obtain ⟨answer, after⟩ := mirrored.erase key pair
    have kept := agree.changed refl (session.backend.erase key state').1 none
    rw [← session.values_erase, ← answer, ← session.values_erase] at kept
    simp only [Flow.run]
    rw [answer]
    exact ih _ after kept

end Alike

end Flow

end RelyingParty
