import RelyingParty.Proofs.Flow.Alike
import RelyingParty.Proofs.Session.History

/-! A cursor is loaded as it was saved, and a stored value that is no cursor counts as none. -/

namespace RelyingParty

variable {ε σ : Type}

/-- Every session value is read back as it was written, and a cursor that one manager saves is what
any manager of the same key loads; only a refused access can come between. -/
theorem SessionValue.stored_read_back (value : SessionValue Endpoint) :
    decode .openid (value.toJson .openid) = .ok value ∧
      ∀ (σ : Type) (session : Session σ) (suffix url url' : Text) (cursor : Cursor Endpoint)
        (state : σ),
        let loaded := ((Manager.save .openid ⟨url, suffix⟩ cursor >>= fun _ =>
          Manager.load .openid ⟨url', suffix⟩).run session.backend state).result
        loaded = .ok (some cursor) ∨
          ∃ fault, loaded = .error (.session fault) ∧
            (session.mayRefuse .set ∨ session.mayRefuse .get) := by
  refine ⟨decode_toJson EndpointCodec.openid_lossless value, ?_⟩
  intro σ session suffix url url' cursor state loaded
  have ends := Flow.run_mayEnd session (Manager.save .openid ⟨url, suffix⟩ cursor >>= fun _ =>
    Manager.load .openid ⟨url', suffix⟩) state
  rw [Manager.save_bind_mayEnd, Manager.load_mayEnd] at ends
  rcases ends with (⟨granted, _, _⟩ | ⟨refused, ⟨fault, failed⟩, _, _⟩) |
    ⟨refused, ⟨fault, failed⟩, _, _⟩
  · -- The URL is no part of the key, so the second manager finds what the first one saved.
    have found : Cursor.ofStored? .openid (Manager.keeping .openid ⟨url, suffix⟩ cursor
        (session.values state) (Manager.key ⟨url', suffix⟩)) = some cursor :=
      Manager.ofStored?_keeping EndpointCodec.openid_lossless cursor (session.values state)
    exact .inl (granted.trans (congrArg Except.ok found))
  · exact .inr ⟨fault, failed, .inr refused⟩
  · exact .inr ⟨fault, failed, .inl refused⟩

namespace Cursor

variable {codec : EndpointCodec ε}

/-- A stored value counts as none when it cannot be read as a cursor. -/
theorem ofStored?_some_eq_none_iff {value : Json} :
    ofStored? codec (some value) = none ↔
      ∀ cursor, SessionValue.decode codec value ≠ .ok (.cursor cursor) := by
  -- It may be undecodable, or a value of another kind.
  simp only [ofStored?, Option.map_some]
  cases SessionValue.decode codec value with
  | error fault => simp
  | ok read => cases read <;> simp

/-- Whether two stored values cannot be told apart: they are the same, or neither is a cursor. -/
def Indistinct (codec : EndpointCodec ε) (found other : Option Json) : Prop :=
  found = other ∨ ofStored? codec found = none ∧ ofStored? codec other = none

variable {found other : Option Json}

/-- Values that cannot be told apart are the same cursor, or none. -/
theorem Indistinct.ofStored?_eq (indistinct : Indistinct codec found other) :
    ofStored? codec found = ofStored? codec other := by
  -- Either they are the same value, or neither is a cursor.
  rcases indistinct with same | ⟨none, none'⟩
  · rw [same]
  · rw [none, none']

/-- Values that cannot be told apart are the same as soon as one of them is a cursor. -/
theorem Indistinct.eq_of_isSome (indistinct : Indistinct codec found other)
    (stored : (ofStored? codec found).isSome = true) : found = other := by
  -- The other way to be indistinct has no cursor.
  rcases indistinct with same | ⟨none, _⟩
  · exact same
  · rw [none] at stored
    cases stored

end Cursor

namespace Manager

variable {codec : EndpointCodec ε} {manager : Manager}

/-- What loading makes of a stored value. -/
def recognize (codec : EndpointCodec ε) (manager : Manager) :
    Option Json → Flow (Option (Cursor ε))
  | none => pure none
  | some value =>
    match SessionValue.decode codec value with
    | .ok (.cursor cursor) => pure (some cursor)
    | .ok _ => manager.discard "value is not a cursor"
    | .error fault => manager.discard fault.message

/-- Loading reads the key once, and makes a cursor of what it finds there. -/
theorem load_eq : manager.load codec = Flow.stored manager.key >>= manager.recognize codec := by
  simp only [load]
  -- Both go on with the same reading.
  congr 1

/-- What is made of a stored value is the cursor that it is, at most behind a report. -/
theorem recognize_cases (codec : EndpointCodec ε) (manager : Manager) (found : Option Json) :
    manager.recognize codec found = pure (Cursor.ofStored? codec found) ∨
      ∃ event, manager.recognize codec found =
        .report event (pure (Cursor.ofStored? codec found)) := by
  -- Nothing and a cursor are quiet; all else is passed over with a report.
  cases found with
  | none => exact .inl rfl
  | some value =>
    simp only [recognize, Cursor.ofStored?, Option.map_some]
    cases SessionValue.decode codec value with
    | error fault => exact .inr ⟨_, rfl⟩
    | ok read =>
      cases read with
      | cursor cursor => exact .inl rfl
      | endpoint endpoint => exact .inr ⟨_, rfl⟩
      | raw text => exact .inr ⟨_, rfl⟩

/-- Of values that are the same cursor, or none, the same is made. -/
theorem recognize_alike {key : Text} {same : Option Json → Option Json → Prop}
    {found other : Option Json}
    (sight : Cursor.ofStored? codec found = Cursor.ofStored? codec other) :
    Flow.Alike key same (manager.recognize codec found) (manager.recognize codec other) := by
  -- Each side may report first that it passes its value over, so they are compared one by one.
  have second : Flow.Alike key same (pure (Cursor.ofStored? codec found))
      (manager.recognize codec other) := by
    rw [sight]
    rcases manager.recognize_cases codec other with quiet | ⟨event, reported⟩
    · rw [quiet]
      exact .done _
    · rw [reported]
      exact .reportSecond event (.done _)
  rcases manager.recognize_cases codec found with quiet | ⟨event, reported⟩
  · rwa [quiet]
  · rw [reported]
    exact .reportFirst event second

/-! Managers of one key do alike when its values are related such that they show the same cursor. -/

section Alike

variable {same : Option Json → Option Json → Prop}

/-- Saving is alike, whatever stands under the key. -/
theorem save_alike (cursor : Cursor ε) :
    Flow.Alike manager.key same (manager.save codec cursor) (manager.save codec cursor) :=
  .store _

/-- Handing out the next endpoint of a cursor is alike. -/
theorem handOut_alike (cursor : Option (Cursor ε)) :
    Flow.Alike manager.key same (manager.handOut codec cursor) (manager.handOut codec cursor) := by
  -- What is saved is the same cursor on both sides.
  cases cursor with
  | none => exact .done _
  | some cursor => exact (save_alike cursor.advance).bind fun _ => .done _

variable (sight : ∀ found other, same found other →
  Cursor.ofStored? codec found = Cursor.ofStored? codec other)

include sight

/-- Loading is alike. -/
theorem load_alike : Flow.Alike manager.key same (manager.load codec) (manager.load codec) := by
  -- What is read is recognized on both sides, or passed over.
  rw [load_eq]
  exact .stored_bind fun found other related => recognize_alike (sight found other related)

/-- Looking for a cursor is alike. -/
theorem cursor_alike (force : Bool) :
    Flow.Alike manager.key same (manager.cursor codec force) (manager.cursor codec force) :=
  (load_alike sight).bind fun _ => .done _

/-- Making a cursor is alike. -/
theorem create_alike (yadisUrl : Text) (services : List ε) :
    Flow.Alike manager.key same (manager.create codec yadisUrl services)
      (manager.create codec yadisUrl services) := by
  refine (cursor_alike sight false).bind fun seen => ?_
  -- From what is seen on, both sides do the same.
  split
  · exact .done _
  · split
    · exact .done _
    · exact (save_alike _).bind fun _ => .done _

/-- Removing a cursor is alike. -/
theorem destroy_alike (force : Bool) :
    Flow.Alike manager.key same (manager.destroy codec force) (manager.destroy codec force) := by
  refine (cursor_alike sight force).bind fun seen => ?_
  -- Both sides see a cursor to remove, or neither does.
  split
  · exact .forget
  · exact .done _

/-- The search for a usable cursor is alike. -/
theorem usable_alike :
    Flow.Alike manager.key same (manager.usable codec) (manager.usable codec) := by
  refine (cursor_alike sight false).bind fun seen => ?_
  cases seen with
  | none => exact .done _
  | some cursor =>
    dsimp only
    -- Whether the cursor is exhausted is the same on both sides, as it is the same cursor.
    split
    · exact (destroy_alike sight false).bind fun _ => .done _
    · exact .done _

/-- A cleanup is alike. -/
theorem cleanup_alike (force : Bool) :
    Flow.Alike manager.key same (manager.cleanup codec force) (manager.cleanup codec force) := by
  -- The cursor that is seen is the same, and so is its removal.
  refine (cursor_alike sight force).bind fun seen => ?_
  cases seen with
  | none => exact .done _
  | some cursor => exact Flow.Alike.forget.bind fun _ => .done _

/-- Finding the next endpoint is alike, whatever discovery finds. -/
theorem next_alike (found : Except Fault (Text × List ε)) :
    Flow.Alike manager.key same (manager.next codec (asking found))
      (manager.next codec (asking found)) := by
  rw [next_eq]
  refine (usable_alike sight).bind fun usable => ?_
  cases usable with
  | some cursor => exact handOut_alike (some cursor)
  | none =>
    -- Both sides discover, and what they find does not depend on the session.
    refine Flow.Alike.bind (.fetch _ fun _ _ => .done found) fun found => ?_
    exact (create_alike sight found.1 found.2).bind handOut_alike

/-- A call is alike. -/
theorem Call.flow_alike (call : Call ε) :
    Flow.Alike manager.key same (call.flow codec manager) (call.flow codec manager) := by
  -- Each call is a flow that is alike.
  cases call with
  | next found => exact (next_alike sight found).map _
  | cleanup force => exact (cleanup_alike sight force).map _
  | create yadisUrl services => exact (create_alike sight yadisUrl services).map _
  | destroy force => exact (destroy_alike sight force).map _
  | cursor force => exact (cursor_alike sight force).map _

end Alike

/-- Why a call fails: an access is refused, its own discovery fails, or it would make a cursor where
one is stored for its URL. -/
inductive Step.FailsBy (refuses : Access → Prop) (step : Step ε) : Fault → Prop
  | refused (fault : SessionFault) (refused : ∃ access, refuses access) :
    FailsBy refuses step (.session fault)
  -- The fault of the discovery is passed on, of whatever kind it is.
  | discovery (fault : Fault) (failed : step.call = .next (.error fault)) :
    FailsBy refuses step fault
  | stored (yadisUrl : Text) (services : List ε) (cursor : Cursor ε)
    (creates : step.call = .create yadisUrl services) (stored : step.before = some cursor)
    (visible : cursor.isFor step.url = true) : FailsBy refuses step (.cursorExists yadisUrl)

/-- A call that fails has one of these reasons. -/
theorem Call.failsBy {refuses : Access → Prop} {before after : Values} {requests : List Request}
    {call : Call ε} {fault : Fault}
    (ends : (call.flow codec manager).MayEnd refuses before (.error fault) after requests) :
    (Step.ofEnd codec manager call before (.error fault) after requests).FailsBy refuses fault := by
  cases call with
  | next found =>
    cases next_ends (Flow.mayEnd_map_error.mp ends) with
    | stopped fault refused | lost fault _ _ refused | kept _ _ fault _ _ refused =>
      exact .refused fault refused
    | failed fault after cleared failed => exact .discovery fault (congrArg Call.next failed)
  | cleanup force =>
    -- Of the ways in which it ends, only the refused access is a fault.
    obtain ⟨final, rfl⟩ := cleanup_ends (Flow.mayEnd_map_error.mp ends)
    cases final with
    | stopped fault refused => exact .refused fault (refused.elim (⟨_, ·⟩) (⟨_, ·⟩))
  | create yadisUrl services =>
    obtain ⟨final, rfl⟩ := create_ends (Flow.mayEnd_map_error.mp ends)
    cases final with
    | stopped fault refused => exact .refused fault (refused.elim (⟨_, ·⟩) (⟨_, ·⟩))
    | «exists» cursor seen =>
      -- What is seen is stored, and is for the URL of the call.
      obtain ⟨stored, visible⟩ := Option.filter_eq_some_iff.mp seen
      exact .stored yadisUrl services cursor rfl stored visible
  | destroy force =>
    obtain ⟨final, rfl⟩ := destroy_ends (Flow.mayEnd_map_error.mp ends)
    cases final with
    | stopped fault refused => exact .refused fault (refused.elim (⟨_, ·⟩) (⟨_, ·⟩))
  | cursor force =>
    -- Nothing follows the reading, so only its refusal is a fault.
    have looks := Flow.mayEnd_map_error.mp ends
    rw [cursor_mayEnd] at looks
    rcases looks with ⟨failed, _, _⟩ | ⟨refused, ⟨fault, failed⟩, _, _⟩
    · cases failed
    · cases failed
      exact .refused fault ⟨_, refused⟩

end Manager

namespace Session

variable {session : Session σ} {paired : σ → σ → Prop} {codec : EndpointCodec ε} {suffix : Text}
  {same : Option Json → Option Json → Prop}

section Alike

variable (mirrored : session.Mirrored paired) (refl : ∀ found, same found found)
  (sight : ∀ found other, same found other →
    Cursor.ofStored? codec found = Cursor.ofStored? codec other)

include mirrored refl sight

/-- A call does the same from paired states whose values show the same cursor, and leaves such
states. -/
theorem step_alike {state other : σ} (pair : paired state other)
    (agree : Values.AgreeBut (Manager.keyStart ++ suffix) same (session.values state)
      (session.values other)) (url : Text) (call : Manager.Call ε) :
    (session.step codec suffix url call state).1 = (session.step codec suffix url call other).1 ∧
      paired (session.step codec suffix url call state).2
        (session.step codec suffix url call other).2 ∧
      Values.AgreeBut (Manager.keyStart ++ suffix) same
        (session.values (session.step codec suffix url call state).2)
        (session.values (session.step codec suffix url call other).2) := by
  have alike : Flow.Alike (Manager.key ⟨url, suffix⟩) same (call.flow codec ⟨url, suffix⟩)
      (call.flow codec ⟨url, suffix⟩) := Manager.Call.flow_alike sight call
  obtain ⟨result, requests, after, kept⟩ := alike.run refl mirrored pair agree
  refine ⟨?_, after, kept⟩
  -- What is seen of a call is its reply, whether it asked, and the cursors around it.
  have seenBefore := sight _ _ agree.here
  have seenAfter := sight _ _ kept.here
  simp only [step, Manager.Step.ofEnd, Manager.key] at seenBefore seenAfter ⊢
  rw [result, requests, seenBefore, seenAfter]

/-- Some calls do the same from paired states whose values show the same cursor, and leave such
states. -/
theorem walk_alike (calls : List (Text × Manager.Call ε)) {state other : σ}
    (pair : paired state other)
    (agree : Values.AgreeBut (Manager.keyStart ++ suffix) same (session.values state)
      (session.values other)) :
    (session.walk codec suffix calls state).1 = (session.walk codec suffix calls other).1 ∧
      Values.AgreeBut (Manager.keyStart ++ suffix) same
        (session.values (session.walk codec suffix calls state).2)
        (session.values (session.walk codec suffix calls other).2) := by
  -- Each call starts from the states that the call before it leaves.
  induction calls generalizing state other with
  | nil => exact ⟨rfl, agree⟩
  | cons first rest ih =>
    obtain ⟨url, call⟩ := first
    obtain ⟨now, after, kept⟩ := step_alike mirrored refl sight pair agree url call
    obtain ⟨later, last⟩ := ih after kept
    refine ⟨?_, last⟩
    simp only [walk]
    rw [now, later]

end Alike

/-- Once a call leaves a cursor, the values are the same from there on. -/
theorem walk_settles (mirrored : session.Mirrored paired) (calls : List (Text × Manager.Call ε))
    {state other : σ} (pair : paired state other)
    (agree : Values.AgreeBut (Manager.keyStart ++ suffix) (Cursor.Indistinct codec)
      (session.values state) (session.values other))
    (stored : ∃ step ∈ (session.walk codec suffix calls state).1, step.after.isSome = true) :
    session.values (session.walk codec suffix calls state).2 =
      session.values (session.walk codec suffix calls other).2 := by
  -- Values that cannot be told apart are the same where a cursor is among them.
  induction calls generalizing state other with
  | nil =>
    obtain ⟨step, member, _⟩ := stored
    cases member
  | cons first rest ih =>
    obtain ⟨url, call⟩ := first
    obtain ⟨now, after, kept⟩ := step_alike mirrored (fun _ => .inl rfl)
      (fun _ _ => Cursor.Indistinct.ofStored?_eq) pair agree url call
    obtain ⟨step, member, held⟩ := stored
    rcases List.mem_cons.mp member with rfl | later
    · have settled := kept.eq_of_here (kept.here.eq_of_isSome held)
      -- From the same values on, equality is the relation that is kept.
      have equal : Values.AgreeBut (Manager.keyStart ++ suffix) Eq
          (session.values (session.step codec suffix url call state).2)
          (session.values (session.step codec suffix url call other).2) :=
        ⟨congrFun settled _, fun wanted _ => congrFun settled wanted⟩
      have last := (walk_alike mirrored (fun _ => rfl)
        (fun _ _ => congrArg (Cursor.ofStored? codec)) rest after equal).2
      exact last.eq_of_here last.here
    · -- The first call may still leave values that cannot be told apart.
      exact ih after kept ⟨step, later, held⟩

/-- A call among some that fails has a reason of its own. -/
theorem walk_failsBy (session : Session σ) (codec : EndpointCodec ε) (suffix : Text)
    (calls : List (Text × Manager.Call ε)) (state : σ) :
    ∀ step ∈ (session.walk codec suffix calls state).1, ∀ fault, step.reply = .error fault →
      step.FailsBy session.mayRefuse fault := by
  -- Each call is judged by the values that it starts from, whatever was called before it.
  induction calls generalizing state with
  | nil => simp [walk]
  | cons first rest ih =>
    obtain ⟨url, call⟩ := first
    intro step member fault failed
    rcases List.mem_cons.mp member with rfl | later
    · have ends := Flow.run_mayEnd session (call.flow codec ⟨url, suffix⟩) state
      simp only [Session.step, Manager.Step.ofEnd] at failed ⊢
      rw [failed] at ends ⊢
      exact Manager.Call.failsBy ends
    · exact ih _ step later fault failed

/-- A stored value that is no cursor counts as nothing, whatever managers of its key call, on a
session that refuses the same accesses with the value and without: every call gives what it would
give if nothing were stored; once a cursor is stored, all values are the same; and a call that fails
does so because an access is refused, its own discovery fails, or a cursor is stored for its URL. -/
theorem walk_unreadable (session : Session σ) (suffix : Text) {full bare : σ}
    (alike : session.RefusesAlike full bare) {value : Json}
    (unreadable : ∀ cursor, SessionValue.decode .openid value ≠ .ok (.cursor cursor))
    (empty : session.values bare (Manager.keyStart ++ suffix) = none)
    (held : session.values full =
      Function.update (session.values bare) (Manager.keyStart ++ suffix) (some value))
    (calls : List (Text × Manager.Call Endpoint)) :
    let walked := session.walk .openid suffix calls full
    let fresh := session.walk .openid suffix calls bare
    walked.1 = fresh.1 ∧
      ((∃ step ∈ walked.1, step.after.isSome = true) →
        session.values walked.2 = session.values fresh.2) ∧
      ∀ step ∈ walked.1, ∀ fault, step.reply = .error fault →
        step.FailsBy session.mayRefuse fault := by
  obtain ⟨paired, mirrored, pair⟩ := alike
  -- Neither the value nor its absence is a cursor, and all else is the same.
  have agree : Values.AgreeBut (Manager.keyStart ++ suffix) (Cursor.Indistinct .openid)
      (session.values full) (session.values bare) := by
    rw [held]
    refine ⟨?_, fun wanted apart => Function.update_of_ne apart _ _⟩
    rw [Function.update_self, empty]
    exact .inr ⟨Cursor.ofStored?_some_eq_none_iff.mpr unreadable, rfl⟩
  exact ⟨(walk_alike mirrored (fun _ => .inl rfl) (fun _ _ => Cursor.Indistinct.ofStored?_eq)
    calls pair agree).1, walk_settles mirrored calls pair agree,
    session.walk_failsBy .openid suffix calls full⟩

/-- A cursor without its fields stands under the key. A cleanup by force is refused, a second one
finds nothing, and then an endpoint is discovered and handed out, as if nothing had stood there. -/
theorem walk_unreadable_interrupted :
    let session := (Store.session fun request => .ok ⟨200, [], [], request.url⟩).interrupted
    let value : Json := .object [("kind", .string "cursor"), ("value", .object [])]
    let full : Store := ⟨Table.insert Manager.keyStart value [], none⟩
    let calls : List (Text × Manager.Call Endpoint) := [("x", .cleanup true), ("x", .cleanup true),
      ("x", .next (.ok ("y", [.make none "a" [] none true])))]
    let walked := session.walk .openid [] calls (full, [true])
    let fresh := session.walk .openid [] calls (.empty, [true])
    session.values (full, [true]) Manager.keyStart = some value ∧ walked.1 = fresh.1 ∧
      session.values walked.2 = session.values fresh.2 ∧
      walked.1.map (fun step => (step.reply.isOk, step.after.isSome)) =
        [(false, false), (true, false), (true, true)] := by
  intro session value full calls walked fresh
  -- Both stores refuse the first access to a key and no other one.
  have alike : session.RefusesAlike (full, [true]) (.empty, [true]) :=
    (refusesAlike_store _ none _ []).interrupted [true]
  have unreadable : Cursor.ofStored? .openid (some value) = none := by decide +kernel
  -- They differ only in the value under the key.
  have held : session.values (full, [true]) = Function.update (session.values (.empty, [true]))
      (Manager.keyStart ++ []) (some value) := by
    funext wanted
    simp [session, Session.interrupted, Store.session, full, Table.get?_insert,
      Function.update_apply, eq_comm, Store.empty]
  have empty : session.values (.empty, [true]) (Manager.keyStart ++ []) = none := rfl
  have present : session.values (full, [true]) Manager.keyStart = some value := by
    rw [held, List.append_nil, Function.update_self]
  have ends : walked.1.map (fun step => (step.reply.isOk, step.after.isSome)) =
      [(false, false), (true, false), (true, true)] := by decide +kernel
  have stored : walked.1.any (·.after.isSome) = true := by decide +kernel
  -- The rest holds of any session, and nothing of this one is evaluated any more.
  clear_value session
  have counts := session.walk_unreadable [] alike
    (Cursor.ofStored?_some_eq_none_iff.mp unreadable) empty held calls
  exact ⟨present, counts.1, counts.2.1 (List.any_eq_true.mp stored), ends⟩

end Session

end RelyingParty
