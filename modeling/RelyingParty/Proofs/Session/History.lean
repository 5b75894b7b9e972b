import RelyingParty.Proofs.Session.Manager

/-! The endpoints that were handed out from a cursor and those that are left are the list that it
was made with, whatever the session refuses and whichever managers share its key. -/

namespace RelyingParty

variable {ε : Type}

/-- A call of a manager; one that hands out an endpoint brings what its discovery would find. -/
inductive Manager.Call (ε : Type) where
  | next (found : Except Fault (Text × List ε))
  | cleanup (force : Bool)
  | create (yadisUrl : Text) (services : List ε)
  | destroy (force : Bool)
  | cursor (force : Bool)

/-- What a call gives. -/
inductive Manager.Reply (ε : Type) where
  | endpoint (endpoint : Option ε)
  | cursor (cursor : Option (Cursor ε))
  | nothing

namespace Manager

/-- The flow of a call. -/
def Call.flow (codec : EndpointCodec ε) (manager : Manager) : Call ε → Flow (Reply ε)
  | next found => .endpoint <$> manager.next codec (asking found)
  | cleanup force => .endpoint <$> manager.cleanup codec force
  | create yadisUrl services => .cursor <$> manager.create codec yadisUrl services
  | destroy force => (fun _ => .nothing) <$> manager.destroy codec force
  | cursor force => .cursor <$> manager.cursor codec force

/-- A completed call as it is seen from outside: who made it, the cursors that were stored before
and after it, whether it started its discovery, and its reply. -/
structure Step (ε : Type) where
  url : Text
  call : Call ε
  before : Option (Cursor ε)
  asked : Bool
  reply : Except Fault (Reply ε)
  after : Option (Cursor ε)

/-- The list of which a call made a cursor. Discovery is started only where no cursor is seen that
has endpoints left, so one that is seen after it is new. -/
def Step.opened? (step : Step ε) : Option (List ε) :=
  match step.call, step.reply with
  | .create _ services, .ok (.cursor (some _)) => some services
  -- A found cursor that is exhausted is removed, so only a new one is seen behind a discovery.
  | .next (.ok (_, services)), _ =>
    if step.asked && step.after.any (·.isFor step.url) then some services else none
  | _, _ => none

/-- The endpoint that a call handed out, as a list. -/
def Step.handed (step : Step ε) : List ε :=
  match step.call, step.reply with
  | .next _, .ok (.endpoint endpoint) => endpoint.toList
  | _, _ => []

/-- What is known of the cursor made last: its list, and what was handed out from it since. -/
structure Account (ε : Type) where
  made : List ε
  handed : List ε

/-- The account after a call. -/
def Account.record (account : Account ε) (step : Step ε) : Account ε :=
  match step.opened? with
  | some services => ⟨services, step.handed⟩
  | none => { account with handed := account.handed ++ step.handed }

/-- The account of some calls, from the first one on. -/
def Account.ofSteps (steps : List (Step ε)) : Account ε := steps.foldl record ⟨[], []⟩

/-- Whether a stored cursor is what its account says: nothing lost, repeated or reordered, and the
endpoint that is being tried is the one handed out last. -/
def Account.Explains (account : Account ε) (stored : Option (Cursor ε)) : Prop :=
  ∀ cursor, stored = some cursor →
    account.handed ++ cursor.services = account.made ∧ cursor.current = account.handed.getLast?

namespace Account.Explains

variable {account : Account ε} {step : Step ε}

/-- What was explained stays so while the stored cursor does, or is removed. -/
theorem record_of_kept {stored : Option (Cursor ε)} (explains : account.Explains stored)
    (unopened : step.opened? = none) (unhanded : step.handed = [])
    (kept : step.after = stored ∨ step.after = none) :
    (account.record step).Explains step.after := by
  -- The account stays as it is, and says nothing of a cursor that is gone.
  intro cursor held
  rw [Account.record, unopened]
  rcases kept with same | gone
  · simpa [unhanded] using explains cursor (same.symm.trans held)
  · simp [gone] at held

/-- A cursor from which an endpoint is handed out stays explained. -/
theorem record_of_advance {cursor : Cursor ε} (explains : account.Explains (some cursor))
    (left : cursor.services ≠ []) (unopened : step.opened? = none)
    (handed : step.handed = cursor.services.head?.toList)
    (advanced : step.after = some cursor.advance) :
    (account.record step).Explains step.after := by
  -- The first endpoint that is left moves to the end of those handed out.
  obtain ⟨whole, _⟩ := explains cursor rfl
  intro stored held
  obtain rfl := Option.some.inj (advanced.symm.trans held)
  cases services : cursor.services with
  | nil => exact absurd services left
  | cons first rest => simp [Account.record, unopened, handed, Cursor.advance, services, ← whole]

/-- A new cursor is explained by its own list, also when its first endpoint is handed out. -/
theorem record_of_opened {url yadisUrl : Text} {services : List ε}
    (opened : step.opened? = some services)
    (held : step.handed = [] ∧ step.after = some (.make url yadisUrl services) ∨
      services ≠ [] ∧ step.handed = services.head?.toList ∧
        step.after = some (Cursor.make url yadisUrl services).advance) :
    (account.record step).Explains step.after := by
  -- A new account is opened, whatever the one before it was.
  intro cursor stored
  rw [Account.record, opened]
  rcases held with ⟨unhanded, made⟩ | ⟨left, handed, advanced⟩
  · obtain rfl := Option.some.inj (made.symm.trans stored)
    simp [unhanded, Cursor.make]
  · obtain rfl := Option.some.inj (advanced.symm.trans stored)
    cases services with
    | nil => exact absurd rfl left
    | cons first rest => simp [handed, Cursor.advance, Cursor.make]

end Account.Explains

/-- A call as seen from the values before and after it. -/
def Step.ofEnd (codec : EndpointCodec ε) (manager : Manager) (call : Call ε) (before : Values)
    (ended : Except Fault (Reply ε)) (after : Values) (requests : List Request) : Step ε where
  url := manager.url
  call
  before := Cursor.ofStored? codec (before manager.key)
  asked := !requests.isEmpty
  reply := ended
  after := Cursor.ofStored? codec (after manager.key)

variable {codec : EndpointCodec ε} {manager : Manager} {refuses : Access → Prop}
  {before after : Values} {requests : List Request} {account : Account ε}

/-- A cursor that is not seen is not for the manager's URL. -/
theorem any_isFor_of_unseen {values : Values} (unseen : manager.seen codec false values = none) :
    (Cursor.ofStored? codec (values manager.key)).any (·.isFor manager.url) = false := by
  -- The manager sees the stored cursor unless it is for another URL.
  cases stored : Cursor.ofStored? codec (values manager.key) with
  | none => rfl
  | some cursor => simpa [seen, stored, Option.filter] using unseen

/-- Handing out an endpoint keeps the stored cursor explained. -/
theorem NextEnds.explains {found : Except Fault (Text × List ε)} {ended : Except Fault (Option ε)}
    (lossless : codec.Lossless)
    (ends : NextEnds codec refuses found manager before ended after requests)
    (explains : account.Explains (Cursor.ofStored? codec (before manager.key))) :
    let step := Step.ofEnd codec manager (.next found) before (ended.map .endpoint) after requests
    (account.record step).Explains step.after := by
  -- Every end keeps the stored cursor, removes it, advances it, or opens a new account.
  cases ends with
  | stopped fault refused =>
    exact explains.record_of_kept (by cases found <;> rfl) rfl (.inl rfl)
  | handed cursor seen left =>
    have stored : Cursor.ofStored? codec (before manager.key) = some cursor :=
      (Option.filter_eq_some_iff.mp seen).1
    rw [stored] at explains
    exact explains.record_of_advance left (by cases found <;> rfl) rfl
      (ofStored?_keeping lossless cursor.advance before)
  | failed fault after cleared failed =>
    subst failed
    exact explains.record_of_kept rfl rfl cleared.kept
  | empty yadisUrl after cleared empty =>
    subst empty
    refine explains.record_of_kept ?_ rfl cleared.kept
    simp [Step.opened?, Step.ofEnd, any_isFor_of_unseen cleared.seen_eq_none]
  | lost fault after cleared refused =>
    -- The new cursor was never stored, and what is still stored is for another URL.
    refine explains.record_of_kept ?_ rfl cleared.kept
    cases found <;> simp [Step.opened?, Step.ofEnd, any_isFor_of_unseen cleared.seen_eq_none]
  | kept yadisUrl services fault middle cleared refused listed left =>
    -- No endpoint was handed out, and the stored cursor still has all of them.
    subst listed
    refine Account.Explains.record_of_opened ?_ (.inl ⟨rfl, ofStored?_keeping lossless _ middle⟩)
    simp [Step.opened?, Step.ofEnd, ofStored?_keeping lossless, Cursor.isFor, Cursor.make]
  | opened yadisUrl services middle cleared listed left =>
    subst listed
    refine Account.Explains.record_of_opened ?_
      (.inr ⟨left, rfl, ofStored?_keeping lossless _ middle⟩)
    simp [Step.opened?, Step.ofEnd, ofStored?_keeping lossless, Cursor.isFor, Cursor.make,
      Cursor.advance]

/-- Making a cursor keeps the stored one explained. -/
theorem CreateEnds.explains {yadisUrl : Text} {services : List ε}
    {ended : Except Fault (Option (Cursor ε))} (lossless : codec.Lossless)
    (ends : CreateEnds codec refuses yadisUrl services manager before ended after)
    (explains : account.Explains (Cursor.ofStored? codec (before manager.key))) :
    let step := Step.ofEnd codec manager (.create yadisUrl services) before (ended.map .cursor)
      after requests
    (account.record step).Explains step.after := by
  -- Only a call that succeeds with a cursor has stored one.
  cases ends with
  | stopped | «exists» | empty => exact explains.record_of_kept rfl rfl (.inl rfl)
  | created =>
    exact Account.Explains.record_of_opened rfl (.inl ⟨rfl, ofStored?_keeping lossless _ before⟩)

/-- A call that removes the cursor keeps the stored one explained. -/
theorem RemovalEnds.explains {α : Type} {force : Bool} {absent : α} {removing : Cursor ε → α}
    {ended : Except Fault α} {call : Call ε} {reply : α → Reply ε}
    (ends : RemovalEnds codec refuses force absent removing manager before ended after)
    (unopened : (Step.ofEnd codec manager call before (ended.map reply) after requests).opened? =
      none)
    (unhanded : (Step.ofEnd codec manager call before (ended.map reply) after requests).handed = [])
    (explains : account.Explains (Cursor.ofStored? codec (before manager.key))) :
    let step := Step.ofEnd codec manager call before (ended.map reply) after requests
    (account.record step).Explains step.after := by
  -- The cursor stays where it is, or nothing is left to explain.
  cases ends with
  | stopped | unseen => exact explains.record_of_kept unopened unhanded (.inl rfl)
  | removed => exact explains.record_of_kept unopened unhanded (.inr (ofStored?_dropping before))

/-- How a call may end. -/
inductive Call.Ends (codec : EndpointCodec ε) (refuses : Access → Prop) (manager : Manager)
    (before : Values) : Call ε → Except Fault (Reply ε) → Values → List Request → Prop
  | next {found : Except Fault (Text × List ε)} {result : Except Fault (Option ε)}
    {after : Values} {requests : List Request}
    (ends : NextEnds codec refuses found manager before result after requests) :
    Ends codec refuses manager before (.next found) (result.map .endpoint) after requests
  | cleanup {force : Bool} {result : Except Fault (Option ε)} {after : Values}
    (ends : RemovalEnds codec refuses force none Cursor.current manager before result after) :
    Ends codec refuses manager before (.cleanup force) (result.map .endpoint) after []
  | create {yadisUrl : Text} {services : List ε} {result : Except Fault (Option (Cursor ε))}
    {after : Values}
    (ends : CreateEnds codec refuses yadisUrl services manager before result after) :
    Ends codec refuses manager before (.create yadisUrl services) (result.map .cursor) after []
  | destroy {force : Bool} {result : Except Fault Unit} {after : Values}
    (ends : RemovalEnds codec refuses force () (fun _ => ()) manager before result after) :
    Ends codec refuses manager before (.destroy force) (result.map fun _ => .nothing) after []
  -- Looking changes nothing, whatever it finds.
  | cursor {force : Bool} {result : Except Fault (Option (Cursor ε))} :
    Ends codec refuses manager before (.cursor force) (result.map .cursor) before []

/-- A call ends in one of these ways. -/
theorem Call.ends {call : Call ε} {ended : Except Fault (Reply ε)}
    (ends : (call.flow codec manager).MayEnd refuses before ended after requests) :
    call.Ends codec refuses manager before ended after requests := by
  -- Each call is a flow of the manager with its result made into a reply.
  cases call with
  | next found =>
    obtain ⟨result, inner, rfl⟩ := Flow.mayEnd_map.mp ends
    exact .next (next_ends inner)
  | cleanup force =>
    obtain ⟨result, inner, rfl⟩ := Flow.mayEnd_map.mp ends
    obtain ⟨final, rfl⟩ := cleanup_ends inner
    exact .cleanup final
  | create yadisUrl services =>
    obtain ⟨result, inner, rfl⟩ := Flow.mayEnd_map.mp ends
    obtain ⟨final, rfl⟩ := create_ends inner
    exact .create final
  | destroy force =>
    obtain ⟨result, inner, rfl⟩ := Flow.mayEnd_map.mp ends
    obtain ⟨final, rfl⟩ := destroy_ends inner
    exact .destroy final
  | cursor force =>
    obtain ⟨result, inner, rfl⟩ := Flow.mayEnd_map.mp ends
    -- Looking for a cursor changes nothing, so there is only one way to end.
    obtain ⟨rfl, rfl⟩ := cursor_ends inner
    exact .cursor

/-- A call keeps the stored cursor explained. -/
theorem Call.Ends.explains {call : Call ε} {ended : Except Fault (Reply ε)}
    (lossless : codec.Lossless)
    (ends : call.Ends codec refuses manager before ended after requests)
    (explains : account.Explains (Cursor.ofStored? codec (before manager.key))) :
    let step := Step.ofEnd codec manager call before ended after requests
    (account.record step).Explains step.after := by
  -- Each way to end either keeps what is stored, or hands out and stores accordingly.
  cases ends with
  | next ends => exact ends.explains lossless explains
  | cleanup ends => exact ends.explains rfl rfl explains
  | create ends => exact ends.explains lossless explains
  | destroy ends => exact ends.explains rfl rfl explains
  | cursor => exact explains.record_of_kept rfl rfl (.inl rfl)

/-- Discovery is cleared to start only where no cursor with endpoints left is seen. -/
theorem Cleared.services_eq_nil {middle : Values} (cleared : Cleared codec manager before middle)
    {cursor : Cursor ε} (stored : Cursor.ofStored? codec (before manager.key) = some cursor)
    (visible : cursor.isFor manager.url = true) : cursor.services = [] := by
  -- A cursor for the URL is seen, so discovery was cleared by its being exhausted.
  have seen : manager.seen codec false before = some cursor := by simp [seen, stored, visible]
  cases cleared with
  | unseen unseen => simp [unseen] at seen
  | exhausted other sight spent =>
    obtain rfl := Option.some.inj (sight.symm.trans seen)
    exact spent

/-- A call that makes a request has cleared its discovery to start. -/
theorem Call.Ends.cleared {call : Call ε} {ended : Except Fault (Reply ε)}
    (ends : call.Ends codec refuses manager before ended after requests)
    (asked : requests ≠ []) : ∃ middle, Cleared codec manager before middle := by
  -- Only handing out an endpoint makes requests, and only in the ways behind a discovery.
  cases ends with
  | next ends =>
    cases ends with
    | stopped | handed => exact absurd rfl asked
    | failed _ _ cleared | empty _ _ cleared | lost _ _ cleared => exact ⟨_, cleared⟩
    | kept _ _ _ _ cleared | opened _ _ _ cleared => exact ⟨_, cleared⟩
  | cleanup | create | destroy | cursor => exact absurd rfl asked

end Manager

variable {σ : Type}

/-- The cursor that a session holds under the key of a suffix. -/
def Session.cursor (session : Session σ) (codec : EndpointCodec ε) (suffix : Text) (state : σ) :
    Option (Cursor ε) :=
  Cursor.ofStored? codec (session.values state (Manager.keyStart ++ suffix))

/-- Makes a call for a URL, and gives the state that it leaves. -/
def Session.step (session : Session σ) (codec : EndpointCodec ε) (suffix url : Text)
    (call : Manager.Call ε) (state : σ) : Manager.Step ε × σ :=
  let manager : Manager := ⟨url, suffix⟩
  let ran := (call.flow codec manager).run session.backend state
  (.ofEnd codec manager call (session.values state) ran.result (session.values ran.state)
    ran.requests, ran.state)

/-- Makes some calls one after another, each for a URL, and gives the state that they leave. -/
def Session.walk (session : Session σ) (codec : EndpointCodec ε) (suffix : Text) :
    List (Text × Manager.Call ε) → σ → List (Manager.Step ε) × σ
  | [], state => ([], state)
  | (url, call) :: rest, state =>
    -- Every call has a manager of its own, which may be for another URL.
    let first := session.step codec suffix url call state
    let others := session.walk codec suffix rest first.2
    (first.1 :: others.1, others.2)

/-- Some calls keep the stored cursor explained, from any account that explains it. -/
theorem Session.walk_explains (session : Session σ) {codec : EndpointCodec ε}
    (lossless : codec.Lossless) (suffix : Text) (calls : List (Text × Manager.Call ε))
    (account : Manager.Account ε) (state : σ)
    (explains : account.Explains (session.cursor codec suffix state)) :
    let walked := session.walk codec suffix calls state
    (walked.1.foldl Manager.Account.record account).Explains
      (session.cursor codec suffix walked.2) := by
  -- The account of the calls so far is carried from call to call.
  induction calls generalizing account state with
  | nil => exact explains
  | cons first rest ih =>
    obtain ⟨url, call⟩ := first
    have ends :=
      Manager.Call.ends (Flow.run_mayEnd session (call.flow codec ⟨url, suffix⟩) state)
    exact ih _ _ (ends.explains lossless explains)

/-- No call among some starts its discovery while it sees a cursor with endpoints left. -/
theorem Session.walk_asked (session : Session σ) (codec : EndpointCodec ε) (suffix : Text)
    (calls : List (Text × Manager.Call ε)) (state : σ) :
    ∀ step ∈ (session.walk codec suffix calls state).1, step.asked = true →
      ∀ cursor, step.before = some cursor → cursor.isFor step.url = true →
        cursor.services = [] := by
  -- Each call judges by what is stored when it begins.
  induction calls generalizing state with
  | nil => simp [walk]
  | cons first rest ih =>
    obtain ⟨url, call⟩ := first
    intro step member asked cursor stored visible
    rcases List.mem_cons.mp member with rfl | later
    · have ends :=
        Manager.Call.ends (Flow.run_mayEnd session (call.flow codec ⟨url, suffix⟩) state)
      obtain ⟨middle, cleared⟩ := ends.cleared (by simpa [step, Manager.Step.ofEnd] using asked)
      exact cleared.services_eq_nil stored visible
    · exact ih _ step later asked cursor stored visible

/-- From an empty key on, whatever managers of one key call and whatever the session refuses: what
was handed out from the stored cursor and what is left of it are the list that it was made with, in
order; the endpoint that is being tried is the one handed out last; and discovery is started only
where no cursor with endpoints left is seen. -/
theorem Session.walk_hands_out_in_order (session : Session σ) (suffix : Text) (start : σ)
    (empty : session.values start (Manager.keyStart ++ suffix) = none)
    (calls : List (Text × Manager.Call Endpoint)) :
    let walked := session.walk .openid suffix calls start
    let account := Manager.Account.ofSteps walked.1
    (∀ cursor, session.cursor .openid suffix walked.2 = some cursor →
      account.handed ++ cursor.services = account.made ∧
        cursor.current = account.handed.getLast?) ∧
    ∀ step ∈ walked.1, step.asked = true →
      ∀ cursor, step.before = some cursor → cursor.isFor step.url = true →
        cursor.services = [] := by
  -- Nothing is stored at first, so an account of nothing explains it.
  have explained : (⟨[], []⟩ : Manager.Account Endpoint).Explains
      (session.cursor .openid suffix start) := by
    intro cursor stored
    simp [Session.cursor, empty, Cursor.ofStored?] at stored
  exact ⟨session.walk_explains EndpointCodec.openid_lossless suffix calls _ start explained,
    session.walk_asked .openid suffix calls start⟩

/-- Three endpoints are found for one URL, and the cursor is stored, but not without its first one.
The next call hands that out; then another URL finds nothing, and a cleanup is refused. -/
theorem Session.walk_hands_out_in_order_interrupted :
    let session := (Store.session fun request => .ok ⟨200, [], [], request.url⟩).interrupted
    let marks := [false, false, false, true, false, false, false, false, false, true]
    let services := ["a", "b", "c"].map fun url : String => Endpoint.make none url [] none true
    let walked := session.walk .openid [] [
      ("x", .next (.ok ("y", services))), ("x", .next (.ok ("y", []))),
      ("z", .next (.ok ("z", []))), ("y", .cleanup true)] (.empty, marks)
    let account := Manager.Account.ofSteps walked.1
    session.values (.empty, marks) Manager.keyStart = none ∧
      ∃ cursor, session.cursor .openid [] walked.2 = some cursor ∧
        account.handed ++ cursor.services = account.made ∧
        cursor.current = account.handed.getLast? ∧
        account.made = services ∧ account.handed = services.take 1 := by
  -- The walk is evaluated, and the rest is the general statement about it.
  intro session marks services walked account
  have stored : session.cursor .openid [] walked.2 =
      some ⟨"x", "y", services.tail, services.head?⟩ := by decide +kernel
  have made : account.made = services := by decide +kernel
  have handed : account.handed = services.take 1 := by decide +kernel
  have empty : session.values (.empty, marks) (Manager.keyStart ++ []) = none := rfl
  have explained := (session.walk_hands_out_in_order [] (.empty, marks) empty _).1 _ stored
  exact ⟨rfl, _, stored, explained.1, explained.2, made, handed⟩

end RelyingParty
