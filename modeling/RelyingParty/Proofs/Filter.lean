import Mathlib.Data.List.Basic
import RelyingParty.Filter
import RelyingParty.Proofs.Except
import RelyingParty.Proofs.Filter.Turns

/-! A filter makes the endpoints of a document of the candidates of its last description. -/

namespace RelyingParty

/-- Sorting by priority neither loses nor adds anything. -/
theorem mem_sortByPriority {α : Type} {priority : α → Option Int} {list : List α} {a : α} :
    a ∈ sortByPriority priority list ↔ a ∈ list := by
  simp [sortByPriority]

/-- The candidates of a service are its URIs with its types. -/
theorem Service.mem_candidates_iff {yadisUrl : Text} {service : Service} {candidate : Candidate} :
    candidate ∈ service.candidates yadisUrl ↔
      ∃ uri ∈ service.uris, candidate = ⟨yadisUrl, service.types, uri.uri, service⟩ := by
  simp [candidates, sortedUris, mem_sortByPriority, eq_comm]

variable {ε : Type}

/-- Of a document with a description a filter makes what it makes of the services of the last
one. -/
theorem Filter.apply_eq {filter : Filter ε} {text : Text} {document : Xrds} {xrd : Xrd}
    (parsed : Xrds.parse text = .ok document) (own : document.xrds.getLast? = some xrd)
    (yadisUrl : Text) :
    filter.apply yadisUrl text =
      (filter.endpointsByPriority yadisUrl xrd.services).mapError .filter := by
  -- The text has been read and its services are known, so that only the filter is left.
  have services : (Xrds.parse text).bind Xrds.services = .ok xrd.services := by
    simp [parsed, Xrds.services, own, Except.bind]
  rw [apply, services]
  rfl

/-- The endpoints of a document are those of the services of its last description by priority. -/
theorem Filter.apply_eq_ok_iff {filter : Filter ε} {yadisUrl text : Text} {list : List ε} :
    filter.apply yadisUrl text = .ok list ↔
      ∃ document xrd, Xrds.parse text = .ok document ∧ document.xrds.getLast? = some xrd ∧
        filter.endpointsByPriority yadisUrl xrd.services = .ok list := by
  -- Only a text without a document, or a document without a description, is refused before.
  cases parsed : Xrds.parse text with
  | error fault => simp [apply, parsed, bind, Except.bind]
  | ok document =>
    cases own : document.xrds.getLast? with
    | none => simp [apply, parsed, Xrds.services, own, bind, Except.bind]
    | some xrd => simp [apply_eq parsed own, own, mapError_eq_ok_iff]

/-- The endpoint of a candidate is made by one of the rules. -/
theorem exists_rule_of_firstEndpoint {candidate : Candidate} {rules : List (Rule ε)} {endpoint : ε}
    (made : firstEndpoint candidate rules = .ok (some endpoint)) :
    ∃ rule ∈ rules, rule candidate = .ok (some endpoint) := by
  -- By induction on the rules: the first one that makes an endpoint ends the search.
  induction rules with
  | nil => cases made
  | cons rule rest ih =>
    obtain ⟨first, applied, ends⟩ := bind_eq_ok_iff.mp made
    cases first with
    | some found =>
      cases ends
      exact ⟨rule, .head _, applied⟩
    | none =>
      obtain ⟨other, inside, applied'⟩ := ih ends
      exact ⟨other, .tail _ inside, applied'⟩

/-- Every endpoint of some candidates is made by a rule of one of them. -/
theorem exists_candidate_of_mem_ruledEndpoints {rules : List (Rule ε)}
    {candidates : List Candidate} {list : List ε} {endpoint : ε}
    (made : ruledEndpoints rules candidates = .ok list) (inside : endpoint ∈ list) :
    ∃ candidate ∈ candidates, ∃ rule ∈ rules, rule candidate = .ok (some endpoint) := by
  -- The turn that the endpoint came in belongs to one candidate.
  rw [ruledEndpoints_eq] at made
  obtain ⟨own, among, member⟩ := exists_of_mem_inTurn made inside
  obtain ⟨candidate, offered, answered⟩ := List.mem_map.mp among
  cases found : firstEndpoint candidate rules with
  | error fault =>
    rw [found] at answered
    cases answered
  | ok first =>
    rw [found] at answered
    cases answered
    rw [Option.mem_toList.mp member] at found
    exact ⟨candidate, offered, exists_rule_of_firstEndpoint found⟩

/-- Every endpoint of some services is one of a single service. -/
theorem Filter.exists_service_of_mem {filter : Filter ε} {yadisUrl : Text} {services : List Service}
    {list : List ε} {endpoint : ε} (made : filter.endpointsOfServices yadisUrl services = .ok list)
    (inside : endpoint ∈ list) :
    ∃ service ∈ services, ∃ own, filter.endpoints yadisUrl service = .ok own ∧ endpoint ∈ own := by
  -- The turn belongs to one service.
  rw [endpointsOfServices_eq] at made
  obtain ⟨own, among, member⟩ := exists_of_mem_inTurn made inside
  obtain ⟨service, offered, answered⟩ := List.mem_map.mp among
  exact ⟨service, offered, own, answered, member⟩

/-- Every endpoint that the filter of one rule makes of a document is what the rule makes of a
candidate with the URL of the discovery. -/
theorem Filter.exists_candidate_of_mem_apply {rule : Rule ε} {yadisUrl text : Text} {list : List ε}
    {endpoint : ε} (made : (ofRule rule).apply yadisUrl text = .ok list)
    (inside : endpoint ∈ list) :
    ∃ candidate, candidate.yadisUrl = yadisUrl ∧ rule candidate = .ok (some endpoint) := by
  -- From the document to the service, and from the service to the candidate.
  obtain ⟨_, xrd, _, _, byPriority⟩ := apply_eq_ok_iff.mp made
  obtain ⟨service, _, own, ruled, member⟩ := exists_service_of_mem byPriority inside
  rw [ofRule, endpoints] at ruled
  obtain ⟨candidate, among, other, single, applied⟩ :=
    exists_candidate_of_mem_ruledEndpoints ruled member
  obtain rfl := List.mem_singleton.mp single
  obtain ⟨uri, _, rfl⟩ := Service.mem_candidates_iff.mp among
  exact ⟨_, rfl, applied⟩

variable (pick : Candidate → Option ε)

/-- A rule that never fails picks among the candidates. -/
theorem ruledEndpoints_ok (candidates : List Candidate) :
    ruledEndpoints [fun candidate => .ok (pick candidate)] candidates =
      .ok (candidates.filterMap pick) := by
  -- The only rule is the first one for every candidate.
  have first (candidate : Candidate) :
      firstEndpoint candidate [fun candidate => .ok (pick candidate)] = .ok (pick candidate) := by
    cases picked : pick candidate <;>
      simp [firstEndpoint, picked, bind, Except.bind, pure, Except.pure]
  have answers : (candidates.map fun candidate =>
      (firstEndpoint candidate [fun candidate => .ok (pick candidate)]).map Option.toList) =
        ((candidates.map pick).map .ok).map (Except.map Option.toList) := by
    simp only [first, List.map_map, Function.comp_def]
  rw [ruledEndpoints_eq, answers, inTurn_ok, List.flatMap_map, List.filterMap_eq_flatMap_toList]

namespace Filter

/-- A rule that never fails picks among the candidates of a service. -/
theorem endpoints_ofRule_ok (yadisUrl : Text) (service : Service) :
    endpoints yadisUrl service (ofRule fun candidate => .ok (pick candidate)) =
      .ok ((service.candidates yadisUrl).filterMap pick) := by
  simp only [ofRule, endpoints, ruledEndpoints_ok]

/-- A rule that never fails picks among the candidates of the services, in their order. -/
theorem endpointsOfServices_ofRule_ok (yadisUrl : Text) (services : List Service) :
    (ofRule fun candidate => .ok (pick candidate)).endpointsOfServices yadisUrl services =
      .ok (services.flatMap fun service => (service.candidates yadisUrl).filterMap pick) := by
  -- Without a fault the turns are joined.
  rw [endpointsOfServices_eq, ← inTurn_ok, List.map_map]
  simp only [endpoints_ofRule_ok]
  rfl

/-- The endpoints of a document by a rule that never fails are those picked among the candidates of
its last description. -/
theorem apply_ofRule_eq_ok_iff {yadisUrl text : Text} {list : List ε} :
    (ofRule fun candidate => .ok (pick candidate)).apply yadisUrl text = .ok list ↔
      ∃ document xrd, Xrds.parse text = .ok document ∧ document.xrds.getLast? = some xrd ∧
        list = (sortByPriority Service.priority xrd.services).flatMap fun service =>
          (service.candidates yadisUrl).filterMap pick := by
  -- Such a filter cannot fail, so only the document can.
  rw [apply_eq_ok_iff]
  simp only [endpointsByPriority, endpointsOfServices_ofRule_ok, Except.ok.injEq, @eq_comm _ list]

end Filter

end RelyingParty
