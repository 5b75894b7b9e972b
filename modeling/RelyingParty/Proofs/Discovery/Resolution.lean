import RelyingParty.Proofs.Discovery.Settled
import RelyingParty.Proofs.Filter
import RelyingParty.Proofs.Xrds.AuthorityChain

/-! An XRI is resolved by one request: the endpoints are those that the filter makes of the document
that answers it, once the chain of the document is verified. -/

namespace RelyingParty

namespace Xrds

/-- The services of a document are those of its last description. -/
theorem services_eq_ok_iff {document : Xrds} {listed : List Service} :
    document.services = .ok listed ↔
      ∃ xrd, document.xrds.getLast? = some xrd ∧ xrd.services = listed := by
  -- A document without a description has no services.
  unfold services
  cases document.xrds.getLast? with
  | none => simp
  | some xrd => simp

/-- The chain of a document is accepted, or refused as a fraud. -/
theorem canonicalId_ok_or_fraud (document : Xrds) (iname : Text) :
    (∃ found, document.canonicalId iname = .ok found) ∨
      ∃ claimed authority, document.canonicalId iname = .error (.fraud claimed authority) := by
  cases upwards : document.xrds.reverse with
  | nil => exact .inl ⟨none, by simp [canonicalId, upwards]⟩
  | cons last above =>
    -- Without a CanonicalID nothing is verified.
    cases has : last.canonicalId with
    | none => exact .inl ⟨none, by simp [canonicalId, upwards, has]⟩
    | some written =>
      -- The climb and the judgement of the root behind it refuse with the same fault.
      rw [canonicalId_eq upwards has]
      rcases climb_ok_or_fraud (Text.lower (Xri.withScheme written)) above with
        ⟨top, arrived⟩ | ⟨claimed, authority, fraud⟩
      · by_cases authoritative :
          Xri.isAuthoritative (Text.lower (Xri.rootAuthority iname)) top = true
        · exact .inl ⟨some written, by simp [arrived, authoritative]⟩
        · exact .inr ⟨top, _, by simp [arrived, authoritative]; rfl⟩
      · exact .inr ⟨claimed, authority, by simp [fraud]⟩

/-- When the chain of a document with a CanonicalID is accepted, its descriptions descend from the
root authority. -/
theorem descends_of_canonicalId {document : Xrds} {last : Xrd} {written iname : Text}
    {found : Option Text} (own : document.xrds.getLast? = some last)
    (has : last.canonicalId = some written) (accepted : document.canonicalId iname = .ok found) :
    Descends (Text.lower (Xri.rootAuthority iname)) document.xrds := by
  obtain ⟨front, whole⟩ := List.getLast?_eq_some_iff.mp own
  have upwards : document.xrds.reverse = last :: front.reverse := by simp [whole]
  rw [canonicalId_eq upwards has] at accepted
  -- Nothing is accepted before the climb arrives where the root judges.
  split at accepted
  · rename_i top arrived
    split at accepted
    · rename_i authoritative
      obtain ⟨parent, segment, under, single, leads⟩ :=
        climb_arrives_iff.mp ⟨top, arrived, authoritative⟩
      -- The last description is the first step of the way up.
      have up := leadsUp_cons_iff.mpr ⟨written, parent, segment, has, rfl, under, single, leads⟩
      rw [← upwards] at up
      obtain ⟨segments, along, _⟩ := leadsUp_reverse_iff.mp up
      exact ⟨segments, along⟩
    · cases accepted
  · cases accepted

/-- A chain that does not descend from the root authority is a fraud. -/
theorem canonicalId_fraud {document : Xrds} {last : Xrd} {written iname : Text}
    (own : document.xrds.getLast? = some last) (has : last.canonicalId = some written)
    (broken : ¬Descends (Text.lower (Xri.rootAuthority iname)) document.xrds) :
    ∃ claimed authority, document.canonicalId iname = .error (.fraud claimed authority) := by
  -- What is accepted descends, and there is no third answer.
  rcases canonicalId_ok_or_fraud document iname with ⟨found, accepted⟩ | fraud
  · exact absurd (descends_of_canonicalId own has accepted) broken
  · exact fraud

end Xrds

namespace Xri

variable {σ : Type} {backend : Backend σ} {state : σ}

/-- A resolver asks once, whatever the answer. -/
theorem Resolver.query_requests (resolver : Resolver) (xri : Text) :
    ((resolver.query xri).run backend state).requests =
      [.get (resolver.queryUrl xri none)] := by
  unfold query
  rw [Flow.run_bind_requests, Flow.run_request]
  dsimp only
  -- The answer is judged without asking again.
  cases (backend.fetch (.get (resolver.queryUrl xri none)) state).1 with
  | error fault => rfl
  | ok response =>
    dsimp only [mapError_ok]
    split
    · rfl
    · rfl

/-- The answer of a document is its verified CanonicalID with its services. -/
theorem answerOf_eq_ok_iff {xri text : Text} {found : Option Text} {services : List Service} :
    answerOf xri text = .ok (found, services) ↔
      ∃ document, Xrds.parse text = .ok document ∧ document.canonicalId xri = .ok found ∧
        document.services = .ok services := by
  -- The three steps fail one after the other, each with its own fault.
  cases parsed : Xrds.parse text with
  | error fault => simp [answerOf, parsed, bind, Except.bind]
  | ok document =>
    cases chain : document.canonicalId xri with
    | error fault => simp [answerOf, parsed, chain, bind, Except.bind]
    | ok canonicalId =>
      cases listed : document.services with
      | error fault => simp [answerOf, parsed, chain, listed, bind, Except.bind]
      | ok services => simp [answerOf, parsed, chain, listed, bind, Except.bind, pure, Except.pure]

/-- What a resolver makes of a complete response is the answer of its document. -/
theorem Resolver.query_result_of_complete {resolver : Resolver} {xri : Text} {response : Response}
    {after : σ}
    (answered : backend.fetch (.get (resolver.queryUrl xri none)) state = (.ok response, after))
    (complete : response.isComplete = true) :
    ((resolver.query xri).run backend state).result =
      (answerOf xri response.body).mapError .xrds := by
  -- The fetch succeeds and the status lets the body pass.
  unfold query
  rw [Flow.run_bind_result, Flow.run_request]
  simp only [answered, mapError_ok, if_pos complete]
  rfl

/-- A resolver has an answer exactly when a complete response brings a document with one. -/
theorem Resolver.query_eq_ok_iff {resolver : Resolver} {xri : Text} {found : Option Text}
    {services : List Service} :
    ((resolver.query xri).run backend state).result = .ok (found, services) ↔
      ∃ response after,
        backend.fetch (.get (resolver.queryUrl xri none)) state = (.ok response, after) ∧
          response.isComplete = true ∧ answerOf xri response.body = .ok (found, services) := by
  constructor
  · -- A fault of the transport and an incomplete response are faults of the whole.
    intro ends
    unfold query at ends
    rw [Flow.run_bind_result, Flow.run_request] at ends
    cases fetched : backend.fetch (.get (resolver.queryUrl xri none)) state with
    | mk outcome after =>
      rw [fetched] at ends
      cases outcome with
      | error fault => cases ends
      | ok response =>
        dsimp only [mapError_ok] at ends
        split at ends
        · rename_i complete
          cases answer : answerOf xri response.body with
          | error fault =>
            rw [answer] at ends
            cases ends
          | ok pair =>
            rw [answer] at ends
            cases ends
            exact ⟨response, after, rfl, complete, answer⟩
        · cases ends
  · -- A complete response gives the answer of its body.
    rintro ⟨response, after, answered, complete, answer⟩
    rw [query_result_of_complete answered complete, answer]
    rfl

end Xri

namespace Discovery

variable {σ : Type} {backend : Backend σ} {state : σ}

/-- A name is resolved exactly when its document is verified with a CanonicalID and the filter makes
endpoints of its services. -/
theorem ofIname_eq_ok_iff {resolver : Xri.Resolver} {iname id : Text} {endpoints : List Endpoint} :
    ((ofIname resolver iname).run backend state).result = .ok (id, endpoints) ↔
      ∃ canonicalId services made,
        ((resolver.query iname).run backend state).result = .ok (some canonicalId, services) ∧
        Endpoint.openidFilter.endpointsByPriority iname services = .ok made ∧ id = iname ∧
        endpoints = Endpoint.preferred (made.map (Endpoint.forXri canonicalId iname)) := by
  -- The identifier of the result is the name itself, so it is never a fault.
  unfold ofIname
  rw [Flow.run_bind_result]
  cases ((resolver.query iname).run backend state).result with
  | error fault => simp
  | ok answer =>
    obtain ⟨found, services⟩ := answer
    cases found with
    -- A name without a CanonicalID is a fault.
    | none => simp [Flow.fail, Flow.run]
    | some canonicalId =>
      dsimp only
      cases made : Endpoint.openidFilter.endpointsByPriority iname services with
      | error fault => simp [Flow.fail, Flow.run, made]
      | ok list =>
        constructor
        · intro ends
          obtain ⟨named, arranged⟩ := settle_eq_ok_iff.mp ends
          exact ⟨canonicalId, services, list, rfl, made, (Except.ok.inj named).symm, arranged⟩
        · rintro ⟨_, _, _, same, made', rfl, rfl⟩
          cases same
          rw [made] at made'
          cases made'
          exact settle_eq_ok_iff.mpr ⟨rfl, rfl⟩

/-- The request of the resolver is the only one. -/
theorem ofIname_requests (resolver : Xri.Resolver) (iname : Text) :
    ((ofIname resolver iname).run backend state).requests =
      [.get (resolver.queryUrl iname none)] := by
  unfold ofIname
  rw [Flow.run_bind_requests, Xri.Resolver.query_requests]
  -- Whatever the resolver answers is made endpoints of, or a fault, without asking again.
  cases ((resolver.query iname).run backend state).result with
  | error fault => rfl
  | ok answer =>
    obtain ⟨found, services⟩ := answer
    cases found with
    | none => rfl
    | some canonicalId =>
      dsimp only
      split
      · rfl
      · rfl

/-- A response is complete by its status. -/
theorem isComplete_iff {response : Response} :
    response.isComplete = true ↔ response.status = 200 ∨ response.status = 206 := by
  simp [Response.isComplete]

/-- An XRI is resolved with one request for its name. It has endpoints exactly when the response is
complete, its document is verified with a CanonicalID, and the filter makes endpoints of it: the
name is what is claimed, and the endpoints, which claim the CanonicalID and display the name, are
those to try. A chain that does not descend from the root authority of the name is always a
fraud. -/
theorem ofXri_resolves (backend : Backend σ) (state : σ) (resolver : Xri.Resolver) (xri : Text) :
    let iname := Xri.withoutScheme xri
    let request := Request.get (resolver.queryUrl iname none)
    let ran := (ofXri resolver xri).run backend state
    ran.requests = [request] ∧
    (∀ id endpoints, ran.result = .ok (id, endpoints) ↔
      ∃ response after document canonicalId made,
        backend.fetch request state = (.ok response, after) ∧
        (response.status = 200 ∨ response.status = 206) ∧
        Xrds.parse response.body = .ok document ∧
        document.canonicalId iname = .ok (some canonicalId) ∧
        Endpoint.openidFilter.apply iname response.body = .ok made ∧ id = iname ∧
        endpoints = Endpoint.preferred (made.map (Endpoint.forXri canonicalId iname))) ∧
    ∀ response after document last written,
      backend.fetch request state = (.ok response, after) →
      response.status = 200 ∨ response.status = 206 → Xrds.parse response.body = .ok document →
      document.xrds.getLast? = some last → last.canonicalId = some written →
      ¬Xrds.Descends (Text.lower (Xri.rootAuthority iname)) document.xrds →
        ∃ claimed authority, ran.result = .error (.xrds (.fraud claimed authority)) := by
  intro iname request ran
  refine ⟨?_, fun id endpoints => ?_, ?_⟩
  · exact (Flow.run_observe_requests ..).trans (ofIname_requests resolver iname)
  · show ((Flow.observe ..).run backend state).result = _ ↔ _
    rw [Flow.run_observe_result, ofIname_eq_ok_iff]
    constructor
    · -- The services of the answer are those that the filter takes of the document itself.
      rintro ⟨canonicalId, services, made, queried, filtered, named, arranged⟩
      obtain ⟨response, after, answered, complete, answer⟩ :=
        Xri.Resolver.query_eq_ok_iff.mp queried
      obtain ⟨document, parsed, chain, listed⟩ := Xri.answerOf_eq_ok_iff.mp answer
      obtain ⟨xrd, own, rfl⟩ := Xrds.services_eq_ok_iff.mp listed
      have applied := Filter.apply_eq_ok_iff.mpr ⟨document, xrd, parsed, own, filtered⟩
      exact ⟨response, after, document, canonicalId, made, answered, isComplete_iff.mp complete,
        parsed, chain, applied, named, arranged⟩
    · rintro ⟨response, after, document, canonicalId, made, answered, complete, parsed, chain,
        applied, named, arranged⟩
      obtain ⟨document', xrd, parsed', own, filtered⟩ := Filter.apply_eq_ok_iff.mp applied
      -- The filter has read the same document.
      obtain rfl : document = document' := Except.ok.inj (parsed.symm.trans parsed')
      have listed := Xrds.services_eq_ok_iff.mpr ⟨xrd, own, rfl⟩
      have answer := Xri.answerOf_eq_ok_iff.mpr ⟨document, parsed, chain, listed⟩
      have queried := Xri.Resolver.query_eq_ok_iff.mpr
        ⟨response, after, answered, isComplete_iff.mpr complete, answer⟩
      exact ⟨canonicalId, xrd.services, made, queried, filtered, named, arranged⟩
  · -- The chain is verified before anything else is asked of the document.
    intro response after document last written answered complete parsed own has broken
    obtain ⟨claimed, authority, fraud⟩ := Xrds.canonicalId_fraud own has broken
    have queried := Xri.Resolver.query_result_of_complete answered (isComplete_iff.mpr complete)
    refine ⟨claimed, authority, ?_⟩
    show ((Flow.observe ..).run backend state).result = _
    rw [Flow.run_observe_result, ofIname, Flow.run_bind_result, queried]
    simp [Xri.answerOf, parsed, fraud, bind, Except.bind]

/-- The response of a proxy with one description, its CanonicalID under the root of global names. -/
def proxyResponse : Response where
  status := 206
  headers := []
  body :=
    "<R:XRDS xmlns:R='xri://$xrds' xmlns='xri://$xrd*($v*2.0)'><XRD>".toList ++
      "<CanonicalID>=!1</CanonicalID><Service><Type>http://openid.net/signon/1.0</Type>" ++
      "<URI>http://op/</URI></Service></XRD></R:XRDS>"
  finalUrl := []

/-- A name under the root of its CanonicalID has the endpoint of the document, and a name under
another root has a fraud. -/
theorem ofXri_resolves_two_roots :
    let ran (xri : Text) := (ofXri ⟨"http://proxy/"⟩ xri).run (.always proxyResponse) ()
    (ran "xri://=name").result = .ok ("=name",
      [⟨some "=!1", "http://op/", [OpenidType.signon10], none, true, some "=name"⟩]) ∧
    ∃ claimed authority, (ran "@name").result = .error (.xrds (.fraud claimed authority)) := by
  let service : Service := ⟨none, [OpenidType.signon10], [⟨none, "http://op/"⟩], [], []⟩
  let last : Xrd := ⟨some "=!1", [service]⟩
  have parsed : Xrds.parse proxyResponse.body = .ok ⟨[last]⟩ := by decide +kernel
  constructor
  · -- The root of the name is the equals sign, with which the CanonicalID begins.
    have applied : Endpoint.openidFilter.apply "=name" proxyResponse.body =
        .ok [⟨some "=name", "http://op/", [OpenidType.signon10], none, true, none⟩] :=
      Filter.apply_eq_ok_iff.mpr ⟨⟨[last]⟩, last, parsed, rfl, by decide +kernel⟩
    refine ((ofXri_resolves (.always proxyResponse) () ⟨"http://proxy/"⟩
      "xri://=name").2.1 _ _).mpr ?_
    exact ⟨proxyResponse, (), ⟨[last]⟩, "=!1", _, rfl, .inr rfl, parsed, by decide +kernel,
      applied, rfl, by decide +kernel⟩
  · refine (ofXri_resolves (.always proxyResponse) () ⟨"http://proxy/"⟩ "@name").2.2
      proxyResponse () ⟨[last]⟩ last "=!1" rfl (.inr rfl) parsed rfl rfl ?_
    -- The identifier would have to begin with the sigil of the name.
    rintro ⟨segments, along⟩
    obtain ⟨written, has, same⟩ := along.issues 0 (by decide)
    cases has
    have sigil := congrArg (List.take 7) same
    rw [Xrds.issued, List.take_append_of_le_length (by decide)] at sigil
    exact absurd sigil (by decide)

end Discovery

end RelyingParty
