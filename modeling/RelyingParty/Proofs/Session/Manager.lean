import RelyingParty.Proofs.Session.Codec
import RelyingParty.Proofs.Session.Outcome
import RelyingParty.Session.Manager

/-! How the calls of a manager may end, on a session that may refuse any access. -/

namespace RelyingParty

variable {ε : Type}

/-- The cursor that a stored value is, when it is one. -/
def Cursor.ofStored? (codec : EndpointCodec ε) (stored : Option Json) : Option (Cursor ε) :=
  match stored.map (SessionValue.decode codec) with
  | some (.ok (.cursor cursor)) => some cursor
  | _ => none

namespace Manager

/-- The cursor under the manager's key that is for its URL, or any one by force. -/
def seen (codec : EndpointCodec ε) (force : Bool) (manager : Manager) (values : Values) :
    Option (Cursor ε) :=
  (Cursor.ofStored? codec (values manager.key)).filter fun cursor =>
    force || cursor.isFor manager.url

/-- The values with a cursor under the manager's key. -/
def keeping (codec : EndpointCodec ε) (manager : Manager) (cursor : Cursor ε) (values : Values) :
    Values :=
  Function.update values manager.key (some ((SessionValue.cursor cursor).toJson codec))

/-- The values with nothing under the manager's key. -/
def dropping (manager : Manager) (values : Values) : Values :=
  Function.update values manager.key none

/-- Hands out the next endpoint of a cursor, if there is one. -/
def handOut (codec : EndpointCodec ε) (manager : Manager) :
    Option (Cursor ε) → Flow (Option ε)
  | none => pure none
  | some cursor => do
    manager.save codec cursor.advance
    return cursor.advance.current

/-- Makes a cursor over what a discovery found, and hands out its first endpoint. -/
def openFound (codec : EndpointCodec ε) (manager : Manager) (found : Text × List ε) :
    Flow (Option ε) := do
  let cursor ← manager.create codec found.1 found.2
  manager.handOut codec cursor

/-- The next endpoint is that of a usable cursor, or else of one over what a discovery finds. -/
theorem next_eq (codec : EndpointCodec ε) (manager : Manager)
    (discover : Text → Flow (Text × List ε)) :
    manager.next codec discover = (do
      match ← manager.usable codec with
      | some cursor => manager.handOut codec (some cursor)
      | none => do
        let found ← discover manager.url
        manager.openFound codec found) := rfl

variable {codec : EndpointCodec ε} {manager : Manager} {refuses : Access → Prop}
  {before after : Values} {requests : List Request}

/-- What follows loading goes on with the stored cursor. -/
theorem load_bind_mayEnd {α : Type} {next : Option (Cursor ε) → Flow α} {ended : Except Fault α} :
    (manager.load codec >>= next).MayEnd refuses before ended after requests ↔
      (next (Cursor.ofStored? codec (before manager.key))).MayEnd refuses before ended after
          requests ∨
        Flow.Stopped (refuses .get) before ended after requests := by
  -- A value that is no cursor is reported, and goes on as none.
  simp only [load, bind_assoc, Flow.mayEnd_stored_bind, Cursor.ofStored?]
  cases stored : before manager.key with
  | none => simp
  | some json =>
    cases decoded : SessionValue.decode codec json with
    | error fault => simp [decoded, discard]
    | ok value => cases value <;> simp [decoded, discard]

/-- Loading gives the stored cursor, unless reading is refused. -/
theorem load_mayEnd {ended : Except Fault (Option (Cursor ε))} :
    (manager.load codec).MayEnd refuses before ended after requests ↔
      (ended = .ok (Cursor.ofStored? codec (before manager.key)) ∧ after = before ∧
          requests = []) ∨
        Flow.Stopped (refuses .get) before ended after requests := by
  -- Nothing follows it, so its value is the one that it goes on with.
  rw [← bind_pure (manager.load codec), load_bind_mayEnd, Flow.mayEnd_pure]

/-- What follows looking for a cursor goes on with the one that is seen. -/
theorem cursor_bind_mayEnd {α : Type} {force : Bool} {next : Option (Cursor ε) → Flow α}
    {ended : Except Fault α} :
    (manager.cursor codec force >>= next).MayEnd refuses before ended after requests ↔
      (next (manager.seen codec force before)).MayEnd refuses before ended after requests ∨
        Flow.Stopped (refuses .get) before ended after requests := by
  simp only [cursor, bind_assoc, load_bind_mayEnd, pure_bind, seen]

/-- Looking for a cursor gives the one that is seen, unless reading is refused. -/
theorem cursor_mayEnd {force : Bool} {ended : Except Fault (Option (Cursor ε))} :
    (manager.cursor codec force).MayEnd refuses before ended after requests ↔
      (ended = .ok (manager.seen codec force before) ∧ after = before ∧ requests = []) ∨
        Flow.Stopped (refuses .get) before ended after requests := by
  rw [← bind_pure (manager.cursor codec force), cursor_bind_mayEnd, Flow.mayEnd_pure]

/-- What follows saving goes on with the cursor under the key. -/
theorem save_bind_mayEnd {α : Type} {cursor : Cursor ε} {next : Unit → Flow α}
    {ended : Except Fault α} :
    (manager.save codec cursor >>= next).MayEnd refuses before ended after requests ↔
      (next ()).MayEnd refuses (manager.keeping codec cursor before) ended after requests ∨
        Flow.Stopped (refuses .set) before ended after requests :=
  Flow.mayEnd_store_bind

/-- Of two cursors that are stored the later stays. -/
theorem keeping_keeping (early late : Cursor ε) (values : Values) :
    manager.keeping codec late (manager.keeping codec early values) =
      manager.keeping codec late values := by
  simp [keeping]

/-- A cursor that is stored is read back. -/
theorem ofStored?_keeping (lossless : codec.Lossless) (cursor : Cursor ε) (values : Values) :
    Cursor.ofStored? codec (manager.keeping codec cursor values manager.key) = some cursor := by
  simp [keeping, Cursor.ofStored?, SessionValue.decode_toJson lossless]

/-- Nothing is stored after a removal. -/
theorem ofStored?_dropping (values : Values) :
    Cursor.ofStored? codec (manager.dropping values manager.key) = none := by
  simp [dropping, Cursor.ofStored?]

/-- Looking for a cursor changes nothing. -/
theorem cursor_ends {force : Bool} {ended : Except Fault (Option (Cursor ε))}
    (ends : (manager.cursor codec force).MayEnd refuses before ended after requests) :
    after = before ∧ requests = [] := by
  -- Neither a reading nor its refusal leaves a trace.
  rw [cursor_mayEnd] at ends
  rcases ends with ⟨_, same, none⟩ | ⟨_, _, same, none⟩
  · exact ⟨same, none⟩
  · exact ⟨same, none⟩

/-- How a call that removes the cursor may end: at a refused access, with nothing to remove, or with
the key empty. It gives one result when no cursor is seen, and another one for the removed
cursor. -/
inductive RemovalEnds {α : Type} (codec : EndpointCodec ε) (refuses : Access → Prop) (force : Bool)
    (absent : α) (removing : Cursor ε → α) (manager : Manager) (before : Values) :
    Except Fault α → Values → Prop
  | stopped (fault : SessionFault) (refused : refuses .get ∨ refuses .delete) :
    RemovalEnds codec refuses force absent removing manager before (.error (.session fault)) before
  | unseen (unseen : manager.seen codec force before = none) :
    RemovalEnds codec refuses force absent removing manager before (.ok absent) before
  | removed (cursor : Cursor ε) (seen : manager.seen codec force before = some cursor) :
    RemovalEnds codec refuses force absent removing manager before (.ok (removing cursor))
      (manager.dropping before)

/-- Looking for a cursor and removing the one that is seen ends in one of these ways, without a
request. -/
theorem removal_ends {α : Type} {force : Bool} {absent : α} {removing : Cursor ε → α}
    {remove : Option (Cursor ε) → Flow α} {ended : Except Fault α}
    (nothing : remove none = pure absent)
    (removes : ∀ cursor, remove (some cursor) = do
      Flow.forget manager.key
      return removing cursor)
    (ends : (manager.cursor codec force >>= remove).MayEnd refuses before ended after requests) :
    RemovalEnds codec refuses force absent removing manager before ended after ∧ requests = [] := by
  -- It reads once, and erases when it sees a cursor; both may be refused.
  rw [cursor_bind_mayEnd] at ends
  rcases ends with ends | ⟨refused, ⟨fault, rfl⟩, rfl, rfl⟩
  · cases seen : manager.seen codec force before with
    | none =>
      rw [seen, nothing] at ends
      obtain ⟨rfl, rfl, rfl⟩ := ends
      exact ⟨.unseen seen, rfl⟩
    | some cursor =>
      rw [seen, removes, Flow.mayEnd_forget_bind] at ends
      rcases ends with ⟨rfl, rfl, rfl⟩ | ⟨refused, ⟨fault, rfl⟩, rfl, rfl⟩
      · exact ⟨.removed cursor seen, rfl⟩
      · exact ⟨.stopped fault (.inr refused), rfl⟩
  · exact ⟨.stopped fault (.inl refused), rfl⟩

/-- A removal ends in one of these ways, and says nothing of the cursor. -/
theorem destroy_ends {force : Bool} {ended : Except Fault Unit}
    (ends : (manager.destroy codec force).MayEnd refuses before ended after requests) :
    RemovalEnds codec refuses force () (fun _ => ()) manager before ended after ∧ requests = [] :=
  removal_ends rfl (fun _ => (bind_pure _).symm) ends

/-- A cleanup ends in one of these ways, and gives the endpoint that was being tried. -/
theorem cleanup_ends {force : Bool} {ended : Except Fault (Option ε)}
    (ends : (manager.cleanup codec force).MayEnd refuses before ended after requests) :
    RemovalEnds codec refuses force none Cursor.current manager before ended after ∧
      requests = [] :=
  removal_ends rfl (fun _ => rfl) ends

/-- How making a cursor may end: at a refused access, at a cursor that is seen, without endpoints
to keep, or with the new cursor under the key. -/
inductive CreateEnds (codec : EndpointCodec ε) (refuses : Access → Prop) (yadisUrl : Text)
    (services : List ε) (manager : Manager) (before : Values) :
    Except Fault (Option (Cursor ε)) → Values → Prop
  | stopped (fault : SessionFault) (refused : refuses .get ∨ refuses .set) :
    CreateEnds codec refuses yadisUrl services manager before (.error (.session fault)) before
  | exists (cursor : Cursor ε) (seen : manager.seen codec false before = some cursor) :
    CreateEnds codec refuses yadisUrl services manager before (.error (.cursorExists yadisUrl))
      before
  | empty (unseen : manager.seen codec false before = none) (nothing : services = []) :
    CreateEnds codec refuses yadisUrl services manager before (.ok none) before
  | created (unseen : manager.seen codec false before = none) (left : services ≠ []) :
    CreateEnds codec refuses yadisUrl services manager before
      (.ok (some (.make manager.url yadisUrl services)))
      (manager.keeping codec (.make manager.url yadisUrl services) before)

/-- Making a cursor ends in one of these ways, without a request. -/
theorem create_ends {yadisUrl : Text} {services : List ε}
    {ended : Except Fault (Option (Cursor ε))}
    (ends : (manager.create codec yadisUrl services).MayEnd refuses before ended after requests) :
    CreateEnds codec refuses yadisUrl services manager before ended after ∧ requests = [] := by
  -- It reads once, and writes only where it sees no cursor and has endpoints to keep.
  rw [create, cursor_bind_mayEnd] at ends
  rcases ends with ends | ⟨refused, ⟨fault, rfl⟩, rfl, rfl⟩
  · cases seen : manager.seen codec false before with
    | some cursor =>
      rw [seen] at ends
      obtain ⟨rfl, rfl, rfl⟩ := ends
      exact ⟨.exists cursor seen, rfl⟩
    | none =>
      rw [seen, if_neg (by simp)] at ends
      -- Without endpoints nothing is kept, and with some the writing may be refused.
      by_cases nothing : services = []
      · rw [if_pos (by simp [nothing])] at ends
        obtain ⟨rfl, rfl, rfl⟩ := ends
        exact ⟨.empty seen nothing, rfl⟩
      · rw [if_neg (by simpa using nothing)] at ends
        simp only [save_bind_mayEnd] at ends
        rcases ends with ⟨rfl, rfl, rfl⟩ | ⟨refused, ⟨fault, rfl⟩, rfl, rfl⟩
        · exact ⟨.created seen nothing, rfl⟩
        · exact ⟨.stopped fault (.inr refused), rfl⟩
  · exact ⟨.stopped fault (.inl refused), rfl⟩

/-- The values in which discovery starts: nothing was seen, or an exhausted cursor is removed. -/
inductive Cleared (codec : EndpointCodec ε) (manager : Manager) (before : Values) : Values → Prop
  | unseen (unseen : manager.seen codec false before = none) : Cleared codec manager before before
  | exhausted (cursor : Cursor ε) (seen : manager.seen codec false before = some cursor)
    (spent : cursor.services = []) : Cleared codec manager before (manager.dropping before)

/-- How the search for a usable cursor may end. -/
inductive UsableEnds (codec : EndpointCodec ε) (refuses : Access → Prop) (manager : Manager)
    (before : Values) : Except Fault (Option (Cursor ε)) → Values → Prop
  | stopped (fault : SessionFault) (refused : refuses .get ∨ refuses .delete) :
    UsableEnds codec refuses manager before (.error (.session fault)) before
  | usable (cursor : Cursor ε) (seen : manager.seen codec false before = some cursor)
    (left : cursor.services ≠ []) :
    UsableEnds codec refuses manager before (.ok (some cursor)) before
  | cleared (after : Values) (cleared : Cleared codec manager before after) :
    UsableEnds codec refuses manager before (.ok none) after

/-- The search for a usable cursor ends in one of these ways, without a request. -/
theorem usable_ends {ended : Except Fault (Option (Cursor ε))}
    (ends : (manager.usable codec).MayEnd refuses before ended after requests) :
    UsableEnds codec refuses manager before ended after ∧ requests = [] := by
  -- A removal looks for the cursor again, and finds the one that was just seen.
  rw [usable, cursor_bind_mayEnd] at ends
  rcases ends with ends | ⟨refused, ⟨fault, rfl⟩, rfl, rfl⟩
  · cases seen : manager.seen codec false before with
    | none =>
      rw [seen] at ends
      obtain ⟨rfl, rfl, rfl⟩ := ends
      exact ⟨.cleared _ (.unseen seen), rfl⟩
    | some cursor =>
      simp only [seen] at ends
      by_cases spent : cursor.services = []
      · rw [if_pos (by simp [Cursor.isExhausted, spent]), Flow.mayEnd_bind] at ends
        rcases ends with ⟨fault, removal, rfl⟩ | ⟨_, _, _, _, removal, ⟨rfl, rfl, rfl⟩, rfl⟩
        · obtain ⟨final, rfl⟩ := destroy_ends removal
          cases final with
          | stopped fault refused => exact ⟨.stopped fault refused, rfl⟩
        · obtain ⟨final, rfl⟩ := destroy_ends removal
          cases final with
          -- Nothing was written since the cursor was seen.
          | unseen unseen => simp [unseen] at seen
          | removed => exact ⟨.cleared _ (.exhausted cursor seen spent), rfl⟩
      · rw [if_neg (by simpa [Cursor.isExhausted] using spent)] at ends
        obtain ⟨rfl, rfl, rfl⟩ := ends
        exact ⟨.usable cursor seen spent, rfl⟩
  · exact ⟨.stopped fault (.inl refused), rfl⟩

/-- A discovery with a given outcome. Its request shows that it was started. -/
def asking (found : Except Fault (Text × List ε)) (url : Text) : Flow (Text × List ε) :=
  .fetch (.get url) fun _ => .done found

/-- How handing out an endpoint may end. Discovery is started in the last five ways only: it fails,
it finds nothing, its cursor cannot be stored, or not be stored again without its first endpoint,
or that endpoint is handed out. -/
inductive NextEnds (codec : EndpointCodec ε) (refuses : Access → Prop)
    (found : Except Fault (Text × List ε)) (manager : Manager) (before : Values) :
    Except Fault (Option ε) → Values → List Request → Prop
  | stopped (fault : SessionFault) (refused : ∃ access, refuses access) :
    NextEnds codec refuses found manager before (.error (.session fault)) before []
  | handed (cursor : Cursor ε) (seen : manager.seen codec false before = some cursor)
    (left : cursor.services ≠ []) :
    NextEnds codec refuses found manager before (.ok cursor.services.head?)
      (manager.keeping codec cursor.advance before) []
  | failed (fault : Fault) (after : Values) (cleared : Cleared codec manager before after)
    (failed : found = .error fault) :
    NextEnds codec refuses found manager before (.error fault) after [.get manager.url]
  | empty (yadisUrl : Text) (after : Values) (cleared : Cleared codec manager before after)
    (empty : found = .ok (yadisUrl, [])) :
    NextEnds codec refuses found manager before (.ok none) after [.get manager.url]
  | lost (fault : SessionFault) (after : Values) (cleared : Cleared codec manager before after)
    (refused : ∃ access, refuses access) :
    NextEnds codec refuses found manager before (.error (.session fault)) after
      [.get manager.url]
  | kept (yadisUrl : Text) (services : List ε) (fault : SessionFault) (middle : Values)
    (cleared : Cleared codec manager before middle) (refused : ∃ access, refuses access)
    (listed : found = .ok (yadisUrl, services)) (left : services ≠ []) :
    NextEnds codec refuses found manager before (.error (.session fault))
      (manager.keeping codec (.make manager.url yadisUrl services) middle) [.get manager.url]
  | opened (yadisUrl : Text) (services : List ε) (middle : Values)
    (cleared : Cleared codec manager before middle)
    (listed : found = .ok (yadisUrl, services)) (left : services ≠ []) :
    NextEnds codec refuses found manager before (.ok services.head?)
      (manager.keeping codec (Cursor.make manager.url yadisUrl services).advance middle)
      [.get manager.url]

/-- After discovery was cleared to start, no cursor is seen. -/
theorem Cleared.seen_eq_none {middle : Values} (cleared : Cleared codec manager before middle) :
    manager.seen codec false middle = none := by
  cases cleared with
  | unseen unseen => exact unseen
  -- The removal emptied the key.
  | exhausted => simp [seen, ofStored?_dropping]

/-- Making a cursor where none is seen and handing out its first endpoint. -/
theorem open_ends {yadisUrl : Text} {services : List ε} {middle : Values}
    {ended : Except Fault (Option ε)} (cleared : Cleared codec manager before middle)
    (ends : (manager.create codec yadisUrl services >>= fun
        | none => pure none
        | some cursor => do
          manager.save codec cursor.advance
          return cursor.advance.current).MayEnd refuses middle ended after requests) :
    NextEnds codec refuses (.ok (yadisUrl, services)) manager before ended after
      (.get manager.url :: requests) := by
  -- The cursor is stored twice, first whole and then without its first endpoint.
  rw [Flow.mayEnd_bind] at ends
  rcases ends with ⟨fault, creation, rfl⟩ | ⟨created, _, _, _, creation, rest, rfl⟩
  · obtain ⟨final, rfl⟩ := create_ends creation
    cases final with
    | stopped fault refused =>
      exact .lost fault _ cleared (refused.elim (⟨_, ·⟩) (⟨_, ·⟩))
    -- What could be seen was removed before discovery started.
    | «exists» cursor seen => simp [cleared.seen_eq_none] at seen
  · obtain ⟨final, rfl⟩ := create_ends creation
    cases final with
    | empty unseen nothing =>
      subst nothing
      obtain ⟨rfl, rfl, rfl⟩ := rest
      exact .empty _ _ cleared rfl
    | created unseen left =>
      simp only [save_bind_mayEnd] at rest
      rcases rest with ⟨rfl, rfl, rfl⟩ | ⟨refused, ⟨fault, rfl⟩, rfl, rfl⟩
      · rw [keeping_keeping]
        exact .opened _ _ _ cleared rfl left
      · -- The first writing was granted, so the whole cursor stays.
        exact .kept _ _ _ _ cleared ⟨_, refused⟩ rfl left

/-- What is stored where discovery was cleared to start was stored before, or is gone. -/
theorem Cleared.kept {middle : Values} (cleared : Cleared codec manager before middle) :
    Cursor.ofStored? codec (middle manager.key) = Cursor.ofStored? codec (before manager.key) ∨
      Cursor.ofStored? codec (middle manager.key) = none := by
  -- An exhausted cursor has been dropped.
  cases cleared with
  | unseen => exact .inl rfl
  | exhausted => exact .inr (ofStored?_dropping before)

/-- Handing out an endpoint ends in one of these ways. -/
theorem next_ends {found : Except Fault (Text × List ε)} {ended : Except Fault (Option ε)}
    (ends : (manager.next codec (asking found)).MayEnd refuses before ended after requests) :
    NextEnds codec refuses found manager before ended after requests := by
  -- The search for a usable cursor decides whether discovery is started.
  rw [next, Flow.mayEnd_bind] at ends
  rcases ends with ⟨fault, search, rfl⟩ | ⟨usable, middle, early, late, search, rest, rfl⟩
  · obtain ⟨final, rfl⟩ := usable_ends search
    cases final with
    | stopped fault refused => exact .stopped fault (refused.elim (⟨_, ·⟩) (⟨_, ·⟩))
  · obtain ⟨final, rfl⟩ := usable_ends search
    cases final with
    | usable cursor seen left =>
      simp only [pure_bind, save_bind_mayEnd] at rest
      rcases rest with ⟨rfl, rfl, rfl⟩ | ⟨refused, ⟨fault, rfl⟩, rfl, rfl⟩
      · exact .handed cursor seen left
      · exact .stopped fault ⟨_, refused⟩
    | cleared after cleared =>
      -- The request of the discovery is the only one.
      simp only [asking] at rest
      obtain ⟨response, rest', rfl, rest⟩ := rest
      cases found with
      | error fault =>
        obtain ⟨rfl, rfl, rfl⟩ := rest
        exact .failed fault _ cleared rfl
      | ok found =>
        obtain ⟨yadisUrl, services⟩ := found
        exact open_ends cleared rest

end Manager

end RelyingParty
