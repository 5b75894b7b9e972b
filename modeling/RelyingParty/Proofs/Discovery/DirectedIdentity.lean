import RelyingParty.Proofs.Discovery.ClaimedIdentifier
import RelyingParty.Proofs.Discovery.Resolution

/-! When an endpoint whose provider chooses the identifier claims one all the same. -/

namespace RelyingParty

/-- Whether an endpoint whose provider chooses the identifier leaves it to the provider. -/
def Endpoint.LeavesChoice (endpoint : Endpoint) : Prop :=
  endpoint.isProvider = true → endpoint.claimedId = none

/-- An endpoint that claims its URL, or none when its provider chooses, leaves the choice. -/
theorem Endpoint.Claims.leavesChoice {url : Text} {endpoint : Endpoint}
    (claims : endpoint.Claims url) : endpoint.LeavesChoice := by
  -- The claim itself says so for a provider that chooses.
  intro provider
  rw [claims, if_pos provider]

namespace Discovery

variable {σ : Type} {backend : Backend σ} {state : σ}

/-- The endpoints of a URL leave the choice to the providers. -/
theorem ofUrl_leavesChoice {identifier id : Text} {endpoints : List Endpoint}
    (ran : ((ofUrl identifier).run backend state).result = .ok (id, endpoints)) :
    ∀ endpoint ∈ endpoints, endpoint.LeavesChoice := by
  -- What is settled on claims the source.
  obtain ⟨_, _, _, settles⟩ := ofUrl_eq_ok_iff.mp ran
  exact fun endpoint inside => (settles.claims endpoint inside).leavesChoice

/-- The endpoints of an XRI claim its CanonicalID, the one that the resolver verified. -/
theorem ofXri_claims {resolver : Xri.Resolver} {xri id : Text} {endpoints : List Endpoint}
    (ran : ((ofXri resolver xri).run backend state).result = .ok (id, endpoints)) :
    ∃ canonicalId services,
      ((resolver.query (Xri.withoutScheme xri)).run backend state).result =
        .ok (some canonicalId, services) ∧
      ∀ endpoint ∈ endpoints, endpoint.claimedId = some canonicalId := by
  unfold ofXri at ran
  rw [Flow.run_observe_result] at ran
  obtain ⟨canonicalId, services, made, queried, _, _, rfl⟩ := ofIname_eq_ok_iff.mp ran
  refine ⟨canonicalId, services, queried, fun endpoint inside => ?_⟩
  -- The CanonicalID is put on every endpoint of the filter, whatever its types.
  obtain ⟨_, _, rfl⟩ := List.mem_map.mp (Endpoint.mem_of_mem_preferred inside)
  rfl

/-- Endpoints whose providers choose the identifier claim none when they were discovered by a URL.
The endpoints of an XRI claim its CanonicalID, also those whose providers choose: all of them leave
the choice only where no provider chooses. -/
theorem discover_leavesChoice_iff {resolver : Xri.Resolver} {identifier id : Text}
    {endpoints : List Endpoint}
    (ran : ((discover resolver identifier).run backend state).result = .ok (id, endpoints)) :
    ((∀ endpoint ∈ endpoints, endpoint.LeavesChoice) ↔
      Xri.isXri identifier = false ∨ ∀ endpoint ∈ endpoints, endpoint.isProvider = false) ∧
    (Xri.isXri identifier = true → ∃ canonicalId services,
      ((resolver.query (Xri.withoutScheme identifier)).run backend state).result =
        .ok (some canonicalId, services) ∧
      ∀ endpoint ∈ endpoints, endpoint.claimedId = some canonicalId) := by
  unfold discover at ran
  -- What a URL discovers leaves the choice, and what an XRI discovers claims its CanonicalID.
  cases kind : Xri.isXri identifier with
  | false =>
    rw [kind] at ran
    exact ⟨iff_of_true (ofUrl_leavesChoice ran) (.inl rfl), Bool.noConfusion⟩
  | true =>
    rw [kind] at ran
    obtain ⟨canonicalId, services, queried, claim⟩ := ofXri_claims ran
    refine ⟨?_, fun _ => ⟨canonicalId, services, queried, claim⟩⟩
    constructor
    · -- An endpoint that claims something has left no choice.
      intro choices
      refine .inr fun endpoint inside => ?_
      cases provider : endpoint.isProvider with
      | false => rfl
      | true =>
        have unclaimed := choices endpoint inside provider
        rw [claim endpoint inside] at unclaimed
        cases unclaimed
    · rintro (url | apart)
      · cases url
      · intro endpoint inside provider
        rw [apart endpoint inside] at provider
        cases provider

/-- The response of a proxy with one description, whose service chooses the identifier. -/
def providerResponse : Response where
  status := 200
  headers := []
  body :=
    "<R:XRDS xmlns:R='xri://$xrds' xmlns='xri://$xrd*($v*2.0)'><XRD>".toList ++
      "<CanonicalID>=!1</CanonicalID><Service>" ++
      "<Type>http://specs.openid.net/auth/2.0/server</Type><URI>http://op/</URI>" ++
      "</Service></XRD></R:XRDS>"
  finalUrl := []

/-- The endpoint of a name whose provider chooses the identifier claims the CanonicalID. -/
theorem discover_claims_for_provider :
    let endpoint : Endpoint :=
      ⟨some "=!1", "http://op/", [OpenidType.server], none, true, some "=name"⟩
    ((discover ⟨"http://proxy/"⟩ "=name").run (.always providerResponse) ()).result =
        .ok ("=name", [endpoint]) ∧
      endpoint.isProvider = true ∧ ¬endpoint.LeavesChoice := by
  intro endpoint
  have ran : ((discover ⟨"http://proxy/"⟩ "=name").run (.always providerResponse) ()).result =
      .ok ("=name", [endpoint]) := by decide +kernel
  have provider : endpoint.isProvider = true := by decide
  refine ⟨ran, provider, fun choice => ?_⟩
  -- The endpoint is the only one, and neither a URL was discovered nor a provider without choice.
  have all : ∀ other ∈ [endpoint], other.LeavesChoice := fun other inside =>
    List.mem_singleton.mp inside ▸ choice
  rcases (discover_leavesChoice_iff ran).1.mp all with url | apart
  · exact absurd url (by decide)
  · exact absurd (apart endpoint (.head _)) (by decide)

end Discovery

end RelyingParty
