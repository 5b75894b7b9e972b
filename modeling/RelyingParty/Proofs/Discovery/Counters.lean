import Mathlib.Algebra.GroupWithZero.Nat
import RelyingParty.Proofs.Consumer.Confined
import RelyingParty.Proofs.Discovery.Settled
import RelyingParty.Proofs.Endpoint.Preference
import RelyingParty.Proofs.Filter

/-! What a discovery adds to the counters of endpoints, and when this is what it hands back. -/

namespace RelyingParty

/-- What is added to the counters of endpoints: endpoints, and discoveries without any. -/
structure Tally where
  endpoints : Nat
  empties : Nat
  deriving DecidableEq, Repr

namespace Tally

instance : Zero Tally := ⟨⟨0, 0⟩⟩

instance : Add Tally :=
  ⟨fun first second => ⟨first.endpoints + second.endpoints, first.empties + second.empties⟩⟩

/-- Nothing before a tally leaves it as it is. -/
@[simp] theorem zero_add (tally : Tally) : 0 + tally = tally :=
  congrArg₂ mk (Nat.zero_add _) (Nat.zero_add _)

/-- So does nothing behind it. -/
@[simp] theorem add_zero (tally : Tally) : tally + 0 = tally :=
  congrArg₂ mk (Nat.add_zero _) (Nat.add_zero _)

/-- What a discovery of some endpoints has to add: their number, or one discovery without any. -/
def ofEndpoints (endpoints : List Endpoint) : Tally :=
  ⟨endpoints.length, if endpoints = [] then 1 else 0⟩

/-- What a discovery has to add by the endpoints that it hands back; a fault hands none back. -/
def handedBack : Except Fault (Text × List Endpoint) → Tally
  | .ok (_, endpoints) => ofEndpoints endpoints
  | .error _ => 0

/-- A discovery that comes to endpoints, or to none, always has something to add. -/
theorem ofEndpoints_ne_zero (endpoints : List Endpoint) : ofEndpoints endpoints ≠ 0 := by
  -- Without endpoints the discovery counts as an empty one.
  intro nothing
  have empties : (if endpoints = [] then 1 else 0) = 0 := congrArg Tally.empties nothing
  have absent : endpoints = [] := List.length_eq_zero_iff.mp (congrArg Tally.endpoints nothing)
  simp [absent] at empties

end Tally

namespace Event

/-- What a signal adds to a counter, whatever its labels. -/
def Signal.amount (counter : Text) : Signal → Nat
  | .count name _ amount => if name = counter then amount else 0
  | _ => 0

/-- What some reports add to a counter. -/
def added (counter : Text) (events : List Event) : Nat :=
  (events.map fun event => event.signal.amount counter).sum

/-- What some reports add to the counters of endpoints. -/
def tally (events : List Event) : Tally :=
  ⟨added endpointCounter events, added emptyCounter events⟩

/-- Reports behind others add to what these add. -/
theorem tally_append (front back : List Event) :
    tally (front ++ back) = tally front + tally back := by
  -- Both counters are sums over the reports.
  unfold tally added
  rw [List.map_append, List.sum_append, List.map_append, List.sum_append]
  rfl

/-- Reports of scans add nothing. -/
theorem tally_of_scans {events : List Event} (scans : ∀ event ∈ events, event.IsScan) :
    tally events = 0 := by
  -- By induction on the reports, each of which is a scan.
  induction events with
  | nil => rfl
  | cons event rest ih =>
    obtain ⟨purpose, rfl⟩ := scans event (.head _)
    rw [← List.singleton_append, tally_append, ih fun other inside => scans other (.tail _ inside)]
    rfl

/-- The report of some endpoints adds what they have to. -/
theorem tally_found (source : EndpointSource) (endpoints : List Endpoint) :
    tally [.found source endpoints.length] = .ofEndpoints endpoints := by
  -- The report of no endpoints is the only one that counts as empty.
  cases endpoints with
  | nil => rfl
  | cons first rest => rfl

end Event

/-- The result of a flow, and what it adds to the counters of endpoints. -/
structure Answer (α : Type) where
  result : Except Fault α
  tally : Tally

namespace Flow

variable {σ α β : Type} {backend : Backend σ} {state : σ}

/-- The answer of a flow. -/
def answer (backend : Backend σ) (flow : Flow α) (state : σ) : Answer α :=
  let ran := flow.run backend state
  ⟨ran.result, Event.tally ran.events⟩

/-- A flow that only scans adds nothing to what follows its value. -/
theorem Confined.answer_bind_of_ok {flow : Flow α} {next : α → Flow β} {value : α}
    (scanning : flow.Scanning) (ended : (flow.run backend state).result = .ok value) :
    (flow >>= next).answer backend state =
      (next value).answer backend (flow.run backend state).state := by
  -- The reports of both parts are added up, and those of the scans are nothing.
  unfold answer
  rw [run_bind_of_ok ended]
  dsimp only
  rw [Event.tally_append, Event.tally_of_scans (scanning.run backend state).2, Tally.zero_add]

/-- A flow that only scans adds nothing when it fails. -/
theorem Confined.answer_bind_of_error {flow : Flow α} {next : α → Flow β} {fault : Fault}
    (scanning : flow.Scanning) (ended : (flow.run backend state).result = .error fault) :
    (flow >>= next).answer backend state = ⟨.error fault, 0⟩ := by
  -- What follows does not run.
  unfold answer
  rw [run_bind_of_error ended]
  dsimp only
  rw [Event.tally_of_scans (scanning.run backend state).2]

/-- Reports of a chain change no answer. -/
theorem answer_observe (kind : FlowKind) (stage : Text) (flow : Flow α) :
    (observe kind stage flow).answer backend state = flow.answer backend state := by
  have events : ((observe kind stage flow).run backend state).events =
      [.entered kind stage, .counted kind .attempt] ++ (flow.run backend state).events ++
        [.counted kind (outcomeOf (flow.run backend state).result)] := by
    simp [observe, run, run_andThen]
  -- The counter of chains is another one.
  have before : Event.tally [.entered kind stage, .counted kind .attempt] = 0 := rfl
  have behind (outcome : Outcome) : Event.tally [.counted kind outcome] = 0 := rfl
  unfold answer
  dsimp only
  rw [run_observe_result, events, Event.tally_append, Event.tally_append, before, behind,
    Tally.zero_add, Tally.add_zero]

end Flow

namespace Discovery

variable {σ : Type} {backend : Backend σ} {state : σ}

/-- The answer that settles on endpoints: all of them are added, the preferred ones are handed back
with the identifier that is claimed, and none is when there is a fault in its place. -/
def settled (claimed : Except Fault Text) (endpoints : List Endpoint) :
    Answer (Text × List Endpoint) :=
  ⟨claimed.map (·, Endpoint.preferred endpoints), .ofEndpoints endpoints⟩

/-- To settle on endpoints gives their answer. -/
theorem answer_settle (source : EndpointSource) (claimed : Except Fault Text)
    (endpoints : List Endpoint) :
    (settle source claimed endpoints).answer backend state = settled claimed endpoints := by
  -- The report comes first, so it is counted even when the identifier is a fault.
  rw [settled, ← Event.tally_found source]
  cases claimed with
  | error fault => rfl
  | ok id => rfl

/-- The endpoints of a page are settled on, whether or not its scan was stopped. -/
theorem answer_ofPage (url page : Text) (claimed : Except Fault Text) :
    (ofPage url page claimed).answer backend state =
      settled claimed (Endpoint.ofPage url page).value := by
  -- The scan is no part of the tally.
  unfold ofPage
  rw [(Yadis.scanning_reportScan .links _).answer_bind_of_ok (Yadis.run_reportScan_result ..),
    answer_settle]

/-- The endpoints that the discovery of a normalized URL gathers, with the identifier that they go
with, or the fault in its place: those of its document, those of its page when it has no document,
or those of the page that is fetched again when the document has none. -/
inductive GathersAt (backend : Backend σ) (state : σ) (url : Text) :
    Except Fault Text → List Endpoint → Prop
  | document {finding : Yadis.Finding} {made : List Endpoint}
    (finds : Yadis.Finds backend state url finding) (located : finding.isXrds = true)
    (applied : Endpoint.openidFilter.apply finding.normalizedUrl finding.body = .ok made)
    (nonempty : made ≠ []) : GathersAt backend state url (normalUrl finding.normalizedUrl) made
  | page {finding : Yadis.Finding}
    (finds : Yadis.Finds backend state url finding) (absent : finding.isXrds = false) :
    GathersAt backend state url (normalUrl finding.normalizedUrl)
      (Endpoint.ofPage finding.normalizedUrl finding.body).value
  -- A document without endpoints is passed over: the URL is asked again as a page.
  | refetched {finding : Yadis.Finding} {response : Response} {after : σ} {claimed : Text}
    (finds : Yadis.Finds backend state url finding) (located : finding.isXrds = true)
    (nothing : documentEndpoints finding = .ok [])
    (answered : backend.fetch (.get url) ((Yadis.discover url).run backend state).state =
      (.ok response, after))
    (complete : response.isComplete = true) (normal : normalUrl response.finalUrl = .ok claimed) :
    GathersAt backend state url (.ok claimed) (Endpoint.ofPage claimed response.body).value

/-- A page that is fetched again is settled on when its URL has a normal form. -/
theorem answer_refetched {url claimed : Text} {response : Response} {after : σ}
    (answered : backend.fetch (.get url) state = (.ok response, after))
    (complete : response.isComplete = true) (normal : normalUrl response.finalUrl = .ok claimed) :
    (refetched url).answer backend state =
      settled (.ok claimed) (Endpoint.ofPage claimed response.body).value := by
  -- With the fetch and the normal form known, what is left is the page.
  have fetched : ((Yadis.fetchComplete url (.get url)).run backend state).result = .ok response :=
    Yadis.fetchComplete_eq_ok_iff.mpr ⟨after, answered, complete⟩
  unfold refetched
  rw [(Yadis.scanning_fetchComplete url _ (Request.isUnlimited_get url)).answer_bind_of_ok fetched,
    normal, Flow.done_ok_bind, answer_ofPage]

/-- Nothing is added when the page cannot be fetched again or its URL has no normal form. -/
theorem answer_refetched_of_not {url : Text}
    (nothing : ∀ response after claimed, backend.fetch (.get url) state = (.ok response, after) →
      response.isComplete = true → normalUrl response.finalUrl ≠ .ok claimed) :
    ∃ fault, (refetched url).answer backend state = ⟨.error fault, 0⟩ := by
  -- Either the fetch fails or it is complete and its URL has no normal form.
  have scanning := Yadis.scanning_fetchComplete url _ (Request.isUnlimited_get url)
  unfold refetched
  cases fetched : ((Yadis.fetchComplete url (.get url)).run backend state).result with
  | error fault => exact ⟨fault, scanning.answer_bind_of_error fetched⟩
  | ok response =>
    obtain ⟨after, answered, complete⟩ := Yadis.fetchComplete_eq_ok_iff.mp fetched
    rw [scanning.answer_bind_of_ok fetched]
    cases normal : normalUrl response.finalUrl with
    | error fault => exact ⟨fault, rfl⟩
    | ok claimed => exact absurd normal (nothing response after claimed answered complete)

/-- What the discovery of a normalized URL gathers is settled on. -/
theorem GathersAt.answer {url : Text} {claimed : Except Fault Text} {made : List Endpoint}
    (gathers : GathersAt backend state url claimed made) :
    (ofNormalUrl url).answer backend state = settled claimed made := by
  -- For each way of gathering, the flow is run along that way.
  have scanning := Yadis.scanning_discover url
  unfold ofNormalUrl
  cases gathers with
  | document finds located applied nonempty =>
    rw [scanning.answer_bind_of_ok (Yadis.discover_eq_ok_iff.mpr finds),
      (documentEndpoints_eq_ok_iff nonempty).mpr ⟨located, applied⟩, Flow.done_ok_bind,
      if_pos nonempty, answer_settle]
  | @page finding finds absent =>
    -- A page has no document, hence no endpoints of one.
    have nothing : documentEndpoints finding = .ok [] := if_neg (by simp [absent])
    rw [scanning.answer_bind_of_ok (Yadis.discover_eq_ok_iff.mpr finds), nothing,
      Flow.done_ok_bind, if_neg (by simp), if_neg (by simp [absent]), answer_ofPage]
  | refetched finds located nothing answered complete normal =>
    rw [scanning.answer_bind_of_ok (Yadis.discover_eq_ok_iff.mpr finds), nothing,
      Flow.done_ok_bind, if_neg (by simp), if_pos located]
    exact answer_refetched answered complete normal

/-- The discovery of a normalized URL that gathers no endpoints fails and adds nothing. -/
theorem answer_ofNormalUrl_of_not {url : Text}
    (nothing : ∀ claimed made, ¬GathersAt backend state url claimed made) :
    ∃ fault, (ofNormalUrl url).answer backend state = ⟨.error fault, 0⟩ := by
  -- Each way through the flow ends in a fault or gathers something.
  have scanning := Yadis.scanning_discover url
  unfold ofNormalUrl
  cases found : ((Yadis.discover url).run backend state).result with
  | error fault => exact ⟨fault, scanning.answer_bind_of_error found⟩
  | ok finding =>
    have finds := Yadis.discover_eq_ok_iff.mp found
    rw [scanning.answer_bind_of_ok found]
    cases made : documentEndpoints finding with
    | error fault => exact ⟨fault, rfl⟩
    | ok endpoints =>
      rw [Flow.done_ok_bind]
      -- A document without endpoints leads to the page that is fetched again.
      by_cases nonempty : endpoints ≠ []
      · obtain ⟨located, applied⟩ := (documentEndpoints_eq_ok_iff nonempty).mp made
        exact absurd (.document finds located applied nonempty) (nothing _ _)
      · obtain rfl : endpoints = [] := Decidable.not_not.mp nonempty
        rw [if_neg nonempty]
        cases located : finding.isXrds with
        | false => exact absurd (.page finds located) (nothing _ _)
        | true =>
          refine answer_refetched_of_not fun response after claimed answered complete normal => ?_
          exact nothing _ _ (.refetched finds located made answered complete normal)

/-- The endpoints that the discovery of an identifier gathers, with the identifier that they go
with, or the fault in its place: those at its normal form as a URL, or those that the filter makes
of the services of an XRI. -/
inductive Gathers (backend : Backend σ) (state : σ) (resolver : Xri.Resolver) (identifier : Text) :
    Except Fault Text → List Endpoint → Prop
  | url {url : Text} {claimed : Except Fault Text} {made : List Endpoint}
    (other : Xri.isXri identifier = false)
    (normal : (withScheme identifier).bind normalUrl = .ok url)
    (gathers : GathersAt backend state url claimed made) :
    Gathers backend state resolver identifier claimed made
  | iname {iname canonicalId : Text} {services : List Service} {made : List Endpoint}
    (xri : Xri.isXri identifier = true) (named : iname = Xri.withoutScheme identifier)
    (queried : ((resolver.query iname).run backend state).result = .ok (some canonicalId, services))
    (filtered : Endpoint.openidFilter.endpointsByPriority iname services = .ok made) :
    Gathers backend state resolver identifier (.ok iname)
      (made.map (Endpoint.forXri canonicalId iname))

/-- What the discovery of an identifier gathers is settled on. -/
theorem Gathers.answer {resolver : Xri.Resolver} {identifier : Text} {claimed : Except Fault Text}
    {made : List Endpoint} (gathers : Gathers backend state resolver identifier claimed made) :
    (discover resolver identifier).answer backend state = settled claimed made := by
  -- The observation of a chain is no part of the answer.
  unfold discover
  cases gathers with
  | url other normal gathers =>
    rw [other, if_neg Bool.false_ne_true, ofUrl, normal, Flow.done_ok_bind, Flow.answer_observe,
      gathers.answer]
  | iname xri named queried filtered =>
    rw [if_pos xri, ofXri, Flow.answer_observe, ← named, ofIname,
      (resolver.scanning_query _).answer_bind_of_ok queried]
    dsimp only
    rw [filtered]
    exact answer_settle ..

/-- The discovery of an identifier that gathers no endpoints fails and adds nothing. -/
theorem answer_discover_of_not {resolver : Xri.Resolver} {identifier : Text}
    (nothing : ∀ claimed made, ¬Gathers backend state resolver identifier claimed made) :
    ∃ fault, (discover resolver identifier).answer backend state = ⟨.error fault, 0⟩ := by
  unfold discover
  cases kind : Xri.isXri identifier with
  | false =>
    -- An identifier without a normal form is refused before the chain is reported.
    rw [if_neg Bool.false_ne_true, ofUrl]
    cases normal : (withScheme identifier).bind normalUrl with
    | error fault => exact ⟨fault, rfl⟩
    | ok url =>
      rw [Flow.done_ok_bind, Flow.answer_observe]
      exact answer_ofNormalUrl_of_not fun _ _ gathers => nothing _ _ (.url kind normal gathers)
  | true =>
    have scanning := resolver.scanning_query (Xri.withoutScheme identifier)
    rw [if_pos rfl, ofXri, Flow.answer_observe, ofIname]
    cases queried : ((resolver.query (Xri.withoutScheme identifier)).run backend state).result with
    | error fault => exact ⟨fault, scanning.answer_bind_of_error queried⟩
    | ok answer =>
      obtain ⟨found, services⟩ := answer
      rw [scanning.answer_bind_of_ok queried]
      cases found with
      | none => exact ⟨_, rfl⟩
      | some canonicalId =>
        -- What the filter makes of the services is gathered, and its fault ends the discovery.
        dsimp only
        cases filtered : Endpoint.openidFilter.endpointsByPriority (Xri.withoutScheme identifier)
            services with
        | error fault => exact ⟨_, rfl⟩
        | ok made => exact absurd (.iname kind rfl queried filtered) (nothing _ _)

/-- What is settled on is added as it is handed back only when the identifier is no fault and no
endpoint is left behind. -/
theorem settled_tally_eq_iff {claimed : Except Fault Text} {made : List Endpoint} :
    (settled claimed made).tally = .handedBack (settled claimed made).result ↔
      (∃ id, claimed = .ok id) ∧ ((∀ endpoint ∈ made, endpoint.isProvider = true) ∨
        ∀ endpoint ∈ made, endpoint.isProvider = false) := by
  -- A fault hands back nothing, while what was found has been added.
  unfold settled
  cases claimed with
  | error fault =>
    refine iff_of_false (Tally.ofEndpoints_ne_zero made) ?_
    rintro ⟨⟨_, ⟨⟩⟩, _⟩
  | ok id =>
    show Tally.ofEndpoints made = .ofEndpoints (Endpoint.preferred made) ↔ _
    simp only [Tally.ofEndpoints, Endpoint.preferred_eq_nil_iff, Tally.mk.injEq, and_true]
    rw [eq_comm, Endpoint.length_preferred_eq_iff]
    exact (and_iff_right ⟨id, rfl⟩).symm

/-- What is settled on is added as a discovery without endpoints exactly when none is handed
back. -/
theorem settled_empties {claimed : Except Fault Text} {made endpoints : List Endpoint} {id : Text}
    (ended : (settled claimed made).result = .ok (id, endpoints)) :
    (settled claimed made).tally.empties = if endpoints = [] then 1 else 0 := by
  cases claimed with
  | error fault => cases ended
  | ok claimed =>
    -- The preferred endpoints are none only when there are none at all.
    cases ended
    simp only [settled, Tally.ofEndpoints, Endpoint.preferred_eq_nil_iff]

/-- What a discovery adds to the counters of endpoints is what it hands back exactly when the
identifier that its endpoints go with is no fault and all of the endpoints are preferred: when every
provider chooses the identifier, or none does. For it adds all endpoints that it gathers, and then
hands back the preferred ones, or the fault. A discovery that gathers no endpoints at all fails and
adds nothing, and one that succeeds is added as one without endpoints exactly when it has none. -/
theorem discover_tally_iff (backend : Backend σ) (state : σ) (resolver : Xri.Resolver)
    (identifier : Text) :
    let ran := (discover resolver identifier).run backend state
    let gathers := Gathers backend state resolver identifier
    (Event.tally ran.events = .handedBack ran.result ↔ ∀ claimed made, gathers claimed made →
      (∃ id, claimed = .ok id) ∧ ((∀ endpoint ∈ made, endpoint.isProvider = true) ∨
        ∀ endpoint ∈ made, endpoint.isProvider = false)) ∧
    (∀ claimed made, gathers claimed made →
      ran.result = claimed.map (·, Endpoint.preferred made) ∧
        Event.tally ran.events = .ofEndpoints made) ∧
    ((∀ claimed made, ¬gathers claimed made) →
      (∃ fault, ran.result = .error fault) ∧ Event.tally ran.events = 0) ∧
    ∀ id endpoints, ran.result = .ok (id, endpoints) →
      (Event.tally ran.events).empties = if endpoints = [] then 1 else 0 := by
  intro ran gathers
  -- The answer of the discovery holds both its result and what it adds.
  have comes (claimed : Except Fault Text) (made : List Endpoint)
      (gathered : gathers claimed made) :
      ran.result = claimed.map (·, Endpoint.preferred made) ∧
        Event.tally ran.events = .ofEndpoints made :=
    Answer.mk.inj gathered.answer
  have fails (nothing : ∀ claimed made, ¬gathers claimed made) :
      (∃ fault, ran.result = .error fault) ∧ Event.tally ran.events = 0 := by
    obtain ⟨fault, answer⟩ := answer_discover_of_not nothing
    obtain ⟨result, tally⟩ := Answer.mk.inj answer
    exact ⟨⟨fault, result⟩, tally⟩
  have either : (∃ claimed made, gathers claimed made) ∨ ∀ claimed made, ¬gathers claimed made :=
    (Classical.em _).imp_right fun apart claimed made here => apart ⟨claimed, made, here⟩
  refine ⟨⟨fun same claimed made gathered => ?_, fun whole => ?_⟩, comes, fails, ?_⟩
  · obtain ⟨result, tally⟩ := comes claimed made gathered
    rw [result, tally] at same
    exact settled_tally_eq_iff.mp same
  · rcases either with ⟨claimed, made, gathered⟩ | nothing
    · obtain ⟨result, tally⟩ := comes claimed made gathered
      rw [result, tally]
      exact settled_tally_eq_iff.mpr (whole claimed made gathered)
    · -- Nothing is added, and a fault hands nothing back.
      obtain ⟨⟨fault, result⟩, tally⟩ := fails nothing
      rw [result, tally]
      rfl
  · intro id endpoints ended
    rcases either with ⟨claimed, made, gathered⟩ | nothing
    · obtain ⟨result, tally⟩ := comes claimed made gathered
      rw [tally]
      exact settled_empties (result.symm.trans ended)
    · obtain ⟨⟨fault, result⟩, _⟩ := fails nothing
      cases result.symm.trans ended

/-- The response of a document with two services, one of which chooses the identifier. -/
def mixedResponse : Response where
  status := 200
  headers := [("content-type", "application/xrds+xml")]
  body :=
    "<R:XRDS xmlns:R='xri://$xrds' xmlns='xri://$xrd*($v*2.0)'><XRD><Service>".toList ++
      "<Type>http://specs.openid.net/auth/2.0/server</Type><URI>http://op/</URI></Service>" ++
      "<Service><Type>http://specs.openid.net/auth/2.0/signon</Type><URI>http://op/</URI>" ++
      "</Service></XRD></R:XRDS>"
  finalUrl := "http://user/"

/-- The response of a page with one link to a provider, from a URL that has no normal form. -/
def strandedPage : Response where
  status := 200
  headers := []
  body := "<html><head><link rel=\"openid.server\" href=\"http://op/\"></head></html>"
  finalUrl := "ftp://user/"

/-- Two endpoints are added and one is handed back where only one provider chooses the identifier,
and one endpoint is added and none is handed back where the identifier is a fault. -/
theorem discover_tally_mixed :
    let ran (response : Response) :=
      (discover ⟨"http://proxy/"⟩ "http://user/").run (.always response) ()
    ((ran mixedResponse).result =
        .ok ("http://user/", [.make none "http://op/" [OpenidType.server] none true]) ∧
      Event.tally (ran mixedResponse).events = ⟨2, 0⟩) ∧
    (ran strandedPage).result = .error (.malformedUri "ftp://user/" .otherScheme) ∧
      Event.tally (ran strandedPage).events = ⟨1, 0⟩ := by
  intro ran
  have other : Xri.isXri "http://user/" = false := by decide
  have normal : normalUrl "http://user/" = .ok "http://user/" := by decide +kernel
  have start : (withScheme "http://user/").bind normalUrl = .ok "http://user/" := by decide +kernel
  constructor
  · let provider : Service := ⟨none, [OpenidType.server], [⟨none, "http://op/"⟩], [], []⟩
    let user : Service := ⟨none, [OpenidType.signon], [⟨none, "http://op/"⟩], [], []⟩
    let last : Xrd := ⟨none, [provider, user]⟩
    -- Without priorities the services stay in their order.
    have order : sortByPriority Service.priority [provider, user] = [provider, user] := by
      simp [sortByPriority, List.mergeSort, provider, user]
    have parsed : Xrds.parse mixedResponse.body = .ok ⟨[last]⟩ := by decide +kernel
    have applied : Endpoint.openidFilter.apply "http://user/" mixedResponse.body =
        .ok [.make none "http://op/" [OpenidType.server] none true,
          .make (some "http://user/") "http://op/" [OpenidType.signon] none true] := by
      refine Filter.apply_eq_ok_iff.mpr ⟨⟨[last]⟩, last, parsed, rfl, ?_⟩
      rw [Filter.endpointsByPriority, order]
      decide +kernel
    -- The document is the first response itself.
    have finds : Yadis.Finds (.always mixedResponse) () "http://user/" _ :=
      .direct rfl (by decide) (by decide)
    have gathers := GathersAt.document finds (by decide) applied (by simp)
    obtain ⟨result, tally⟩ := (discover_tally_iff _ () ⟨"http://proxy/"⟩ "http://user/").2.1 _ _
      (.url other start gathers)
    refine ⟨result.trans ?_, tally⟩
    show Except.map _ (normalUrl "http://user/") = _
    rw [normal]
    decide
  · -- The page is found where its URL has no normal form, so its endpoint is added and lost.
    have finds : Yadis.Finds (.always strandedPage) () "http://user/" _ :=
      .absent rfl (by decide) (by decide) (by decide +kernel)
    have gathers := GathersAt.page finds (by decide)
    obtain ⟨result, tally⟩ := (discover_tally_iff _ () ⟨"http://proxy/"⟩ "http://user/").2.1 _ _
      (.url other start gathers)
    refine ⟨result.trans ?_, tally.trans (by decide +kernel)⟩
    decide +kernel

end Discovery

end RelyingParty
