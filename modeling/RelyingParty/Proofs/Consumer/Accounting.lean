import Mathlib.Data.List.Count
import RelyingParty.Proofs.Consumer.Confined
import RelyingParty.Proofs.Flow.Counts

/-! What the operations of a consumer add to the counter of chains, one after another. -/

namespace RelyingParty

/-- A report that counts no chain is no increment. -/
theorem Event.IsUncounted.count?_eq_none {event : Event} (uncounted : event.IsUncounted) :
    event.count? = none := by
  -- Only the report of a chain counts one.
  cases event with
  | counted kind outcome => exact absurd rfl (uncounted kind outcome)
  | _ => rfl

variable {σ α β : Type}

namespace Flow

/-- A plain flow adds nothing. -/
theorem Confined.plain_counts {flow : Flow α} (plain : flow.Plain) (backend : Backend σ)
    (state : σ) : flow.counts backend state = [] :=
  plain.counts_eq_nil (fun _ => Event.IsUncounted.count?_eq_none) backend state

/-- What follows plainly adds nothing to a flow. -/
theorem counts_andThen_plain (backend : Backend σ) (flow : Flow α) {next : Except Fault α → Flow β}
    (plain : ∀ result, (next result).Plain) (state : σ) :
    (flow.andThen next).counts backend state = flow.counts backend state := by
  rw [counts_andThen, (plain _).plain_counts, List.append_nil]

/-- What follows a value plainly adds nothing to a flow. -/
theorem counts_bind_plain (backend : Backend σ) (flow : Flow α) {next : α → Flow β}
    (plain : ∀ value, (next value).Plain) (state : σ) :
    (flow >>= next).counts backend state = flow.counts backend state := by
  -- A fault is not followed by anything, so the values are all that matters.
  refine counts_andThen_plain backend flow (fun result => ?_) state
  cases result with
  | ok value => exact plain value
  | error fault => trivial

end Flow

namespace Yadis

/-- What the discovery of endpoints adds: its chain, with the result of the discovery. -/
def account {ε : Type} (backend : Backend σ) (filter : Filter ε) (url : Text) (state : σ) :
    List Count :=
  Count.chain .yadis ((filtered filter url).run backend state).result []

/-- The discovery of endpoints adds what its account says. -/
theorem counts_endpoints {ε : Type} (backend : Backend σ) (filter : Filter ε) (url : Text)
    (state : σ) :
    (endpoints filter url).counts backend state = account backend filter url state := by
  -- All is inside the one observed chain, and there it is plain.
  unfold endpoints account
  rw [Flow.counts_observe, (plain_filtered filter url).plain_counts]

/-- What the discovery of endpoints adds is well bracketed. -/
theorem bracketed_account {ε : Type} (backend : Backend σ) (filter : Filter ε) (url : Text)
    (state : σ) : Bracketed (account backend filter url state) :=
  .ofChain .nil

end Yadis

namespace Discovery

/-- What the discovery of an identifier adds: the chain of an XRI, or that of a URL unless it is
refused before, with the result of the discovery. -/
def account (backend : Backend σ) (resolver : Xri.Resolver) (identifier : Text) (state : σ) :
    List Count :=
  if Xri.isXri identifier then
    Count.chain .xri ((ofIname resolver (Xri.withoutScheme identifier)).run backend state).result []
  else
    match (withScheme identifier).bind normalUrl with
    | .ok url => Count.chain .yadis ((ofNormalUrl url).run backend state).result []
    | .error _ => []

/-- The discovery of an identifier adds what its account says. -/
theorem counts_discover (backend : Backend σ) (resolver : Xri.Resolver) (identifier : Text)
    (state : σ) :
    (discover resolver identifier).counts backend state =
      account backend resolver identifier state := by
  -- The same question tells XRIs from URLs in the flow and in the account.
  unfold discover account
  split
  · unfold ofXri
    rw [Flow.counts_observe, (plain_ofIname resolver _).plain_counts]
  · unfold ofUrl
    cases (withScheme identifier).bind normalUrl with
    | error fault => rfl
    | ok url =>
      rw [Flow.done_ok_bind, Flow.counts_observe, (plain_ofNormalUrl url).plain_counts]

/-- What the discovery of an identifier adds is well bracketed. -/
theorem bracketed_account (backend : Backend σ) (resolver : Xri.Resolver) (identifier : Text)
    (state : σ) : Bracketed (account backend resolver identifier state) := by
  -- There is one chain or none, and nothing is counted inside it.
  unfold account
  split
  · exact .ofChain .nil
  · split
    · exact .ofChain .nil
    · exact .nil

end Discovery

namespace Realm

/-- What a verification adds: nothing for a text that is no realm, and else its chain around that of
the discovery of its endpoints, each with its own result. -/
def account (backend : Backend σ) (source returnTo : Text) (state : σ) : List Count :=
  match parse? source with
  | none => []
  | some realm =>
    Count.chain .realmVerification ((realm.verify returnTo).run backend state).result
      (Yadis.account backend (.ofRule returnUrlRule) realm.discoveryUrl state)

/-- The verification against a realm adds the chain of its discovery. -/
theorem counts_verify (backend : Backend σ) (realm : Realm) (returnTo : Text) (state : σ) :
    (realm.verify returnTo).counts backend state =
      Yadis.account backend (.ofRule returnUrlRule) realm.discoveryUrl state := by
  unfold verify
  rw [Flow.counts_andThen_plain]
  · -- Only the discovery of the endpoints counts anything.
    unfold allowedReturnUrls
    rw [Flow.counts_bind_plain, Yadis.counts_endpoints]
    intro found
    dsimp only
    split
    · trivial
    · trivial
  · -- The judgement and the answer for a redirected realm count nothing.
    intro result
    split
    · exact plain_judge ..
    · exact ⟨fun _ _ => Event.noConfusion, trivial⟩
    · trivial

/-- The verification against the text of a realm adds what its account says. -/
theorem counts_verifyText (backend : Backend σ) (source returnTo : Text) (state : σ) :
    (verifyText source returnTo).counts backend state = account backend source returnTo state := by
  unfold verifyText account
  cases parse? source with
  | none => rfl
  | some realm =>
    -- What is counted inside the chain of the realm is the chain of the discovery.
    dsimp only
    rw [Flow.counts_observe, counts_verify]

/-- What a verification adds is well bracketed. -/
theorem bracketed_account (backend : Backend σ) (source returnTo : Text) (state : σ) :
    Bracketed (account backend source returnTo state) := by
  -- The discovery of the return URLs is a chain inside the chain of the verification.
  unfold account
  split
  · exact .nil
  · exact .ofChain (Yadis.bracketed_account ..)

end Realm

/-- What it adds to hand out an endpoint: nothing when a usable cursor is found or the search for it
fails, and else what the discovery adds from where the search ends. -/
def Manager.account {ε : Type} (codec : EndpointCodec ε) (backend : Backend σ) (manager : Manager)
    (discovered : σ → List Count) (state : σ) : List Count :=
  let search := (manager.usable codec).run backend state
  match search.result with
  -- Only a search that ends without a cursor goes on to discover.
  | .ok none => discovered search.state
  | _ => []

/-- To hand out an endpoint adds what its account says. -/
theorem Manager.counts_next {ε : Type} (codec : EndpointCodec ε) (backend : Backend σ)
    (manager : Manager) (discover : Text → Flow (Text × List ε)) (state : σ) :
    (manager.next codec discover).counts backend state =
      manager.account codec backend ((discover manager.url).counts backend) state := by
  unfold account
  dsimp only
  -- The search counts nothing, and its result decides whether anything is discovered.
  rw [next_eq, Flow.counts_bind, (manager.plain_usable codec).plain_counts, List.nil_append]
  cases ((manager.usable codec).run backend state).result with
  | error fault => rfl
  | ok usable =>
    cases usable with
    | some cursor => exact (manager.plain_handOut codec (some cursor)).plain_counts ..
    | none => exact Flow.counts_bind_plain backend _ (manager.plain_openFound codec) _

/-- What it adds to hand out an endpoint is well bracketed when what the discovery adds is. -/
theorem Manager.bracketed_account {ε : Type} (codec : EndpointCodec ε) (backend : Backend σ)
    (manager : Manager) {discovered : σ → List Count}
    (bracketed : ∀ state, Bracketed (discovered state)) (state : σ) :
    Bracketed (manager.account codec backend discovered state) := by
  -- The discovery runs only where no cursor is found.
  unfold account
  dsimp only
  split
  · exact bracketed _
  · exact .nil

/-- An operation that may start chains: a call of a consumer, or the discovery of the endpoints of a
URL by any filter. -/
inductive Operation where
  | called (consumer : Consumer) (call : Consumer.Call)
  | endpoints {ε : Type} (filter : Filter ε) (url : Text)

namespace Operation

/-- The flow of an operation, whose result goes to its caller. -/
def flow : Operation → Flow Unit
  | called consumer call => consumer.perform call
  | endpoints filter url => (Yadis.endpoints filter url).dismiss

/-- What an operation adds. -/
def account (backend : Backend σ) (state : σ) : Operation → List Count
  | called consumer (.discover identifier) =>
    Discovery.account backend consumer.config.resolver identifier state
  | called consumer (.next identifier) =>
    (consumer.manager identifier).account .openid backend
      (Discovery.account backend consumer.config.resolver identifier) state
  | called _ (.verify realm returnUrl) => Realm.account backend realm returnUrl state
  | endpoints filter url => Yadis.account backend filter url state

/-- An operation adds what its account says. -/
theorem counts_flow (backend : Backend σ) (operation : Operation) (state : σ) :
    operation.flow.counts backend state = operation.account backend state := by
  -- To dismiss a value adds nothing, so each operation is that of its consumer.
  cases operation with
  | endpoints filter url =>
    exact (Flow.counts_dismiss _ state).trans (Yadis.counts_endpoints backend filter url state)
  | called consumer call =>
    cases call with
    | discover identifier =>
      exact (Flow.counts_dismiss _ state).trans
        (Discovery.counts_discover backend _ identifier state)
    -- Handing out an endpoint may discover on the way.
    | next identifier =>
      refine (Flow.counts_dismiss _ state).trans ?_
      refine (Manager.counts_next _ backend _ consumer.discover state).trans ?_
      exact congrArg (Manager.account _ backend _ · state)
        (funext (Discovery.counts_discover backend _ identifier))
    | verify realm returnUrl =>
      exact (Flow.counts_dismiss _ state).trans
        (Realm.counts_verifyText backend realm returnUrl state)

/-- What an operation adds is well bracketed. -/
theorem bracketed_account (backend : Backend σ) (operation : Operation) (state : σ) :
    Bracketed (operation.account backend state) := by
  -- Each kind of operation has its own account.
  cases operation with
  | endpoints filter url => exact Yadis.bracketed_account ..
  | called consumer call =>
    cases call with
    | discover identifier => exact Discovery.bracketed_account ..
    | next identifier =>
      exact Manager.bracketed_account _ backend _
        (Discovery.bracketed_account backend _ identifier) state
    | verify realm returnUrl => exact Realm.bracketed_account ..

/-- An operation has no fault of its own. -/
theorem run_flow_result (backend : Backend σ) (operation : Operation) (state : σ) :
    (operation.flow.run backend state).result = .ok () := by
  -- Every flow of an operation is dismissed at its end.
  cases operation with
  | endpoints filter url => exact Flow.run_dismiss_result ..
  | called consumer call =>
    cases call with
    | discover identifier => exact Flow.run_dismiss_result ..
    | next identifier => exact Flow.run_dismiss_result ..
    | verify realm returnUrl => exact Flow.run_dismiss_result ..

/-- The flow of some operations, one after another. -/
def flowOfAll : List Operation → Flow Unit
  | [] => pure ()
  | operation :: rest => do
    operation.flow
    flowOfAll rest

/-- What some operations add, each from the state that the one before it leaves. -/
def accountOfAll (backend : Backend σ) : List Operation → σ → List Count
  | [], _ => []
  | operation :: rest, state =>
    operation.account backend state ++
      accountOfAll backend rest (operation.flow.run backend state).state

/-- Some operations add what their accounts say. -/
theorem counts_flowOfAll (backend : Backend σ) (operations : List Operation) (state : σ) :
    (flowOfAll operations).counts backend state = accountOfAll backend operations state := by
  -- No operation keeps those behind it from being performed.
  induction operations generalizing state with
  | nil => rfl
  | cons operation rest ih =>
    rw [flowOfAll, Flow.counts_bind, run_flow_result, counts_flow]
    exact congrArg (_ ++ ·) (ih _)

/-- What some operations add is well bracketed. -/
theorem bracketed_accountOfAll (backend : Backend σ) (operations : List Operation) (state : σ) :
    Bracketed (accountOfAll backend operations state) := by
  -- One operation after the other: brackets that are closed may follow each other.
  induction operations generalizing state with
  | nil => exact .nil
  | cons operation rest ih => exact (operation.bracketed_account backend state).append (ih _)

end Operation

/-- Whatever operations are completed one after another, the counter of chains is incremented as
their accounts say: for each chain that starts by an attempt, by the chains inside it, and by the
outcome of its own result, and not at all for what is refused before. The increments are well
bracketed, and of each kind there are as many attempts as successes and failures. -/
theorem increments_bracketed (backend : Backend σ) (operations : List Operation) (state : σ) :
    let counts := Operation.accountOfAll backend operations state
    let increments :=
      Event.increments ((Operation.flowOfAll operations).run backend state).events
    increments = counts.map Count.signal ∧ Bracketed counts ∧
      ∀ kind, increments.count (Count.signal ⟨kind, .attempt⟩) =
        increments.count (Count.signal ⟨kind, .success⟩) +
          increments.count (Count.signal ⟨kind, .failure⟩) := by
  intro counts increments
  have bracketed : Bracketed counts := Operation.bracketed_accountOfAll backend operations state
  have same : increments = counts.map Count.signal := by
    show Event.increments _ = _
    rw [Event.increments_eq]
    exact congrArg (List.map Count.signal) (Operation.counts_flowOfAll backend operations state)
  refine ⟨same, bracketed, fun kind => ?_⟩
  -- The signals are as many as the counts, because they tell them apart.
  rw [same]
  simp only [List.count_map_of_injective _ _ Count.signal_injective]
  exact bracketed.count_attempt kind

/-- A realm whose discovery gets no complete response fails around the chain that failed inside it,
and an identifier of another scheme is refused before anything is counted. -/
example :
    Operation.accountOfAll (.always ⟨404, [], [], "http://a.com/"⟩)
        [.called ⟨.standard⟩ (.verify "http://*/" "http://a.com/b"),
          .called ⟨.standard⟩ (.discover "ftp://a.com/")] () =
      [⟨.realmVerification, .attempt⟩, ⟨.yadis, .attempt⟩, ⟨.yadis, .failure⟩,
        ⟨.realmVerification, .failure⟩] := by
  decide +kernel

end RelyingParty
