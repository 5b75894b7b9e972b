import Mathlib.Data.List.Basic
import RelyingParty.Proofs.Discovery.Settled
import RelyingParty.Proofs.Filter

/-! When the endpoints of a URL claim the identifier that its discovery reports. -/

namespace RelyingParty

namespace Endpoint

/-- Whether an endpoint claims a URL, or none when its provider chooses the identifier. -/
def Claims (url : Text) (endpoint : Endpoint) : Prop :=
  endpoint.claimedId = if endpoint.isProvider then none else some url

/-- Whether an endpoint agrees on an identifier: its provider chooses one and it claims none, or it
claims exactly that one. -/
def AgreesOn (id : Text) (endpoint : Endpoint) : Prop :=
  (endpoint.isProvider = true ∧ endpoint.claimedId = none) ∨ endpoint.claimedId = some id

/-- An endpoint that claims a URL agrees on no other identifier, unless its provider chooses. -/
theorem Claims.agreesOn_iff {url id : Text} {endpoint : Endpoint} (claims : endpoint.Claims url) :
    endpoint.AgreesOn id ↔ url = id ∨ endpoint.isProvider = true := by
  -- A provider that chooses has nothing to agree on.
  unfold AgreesOn
  rw [claims]
  cases endpoint.isProvider with
  | false => simp
  | true => simp

/-- An endpoint of a candidate is found by Yadis; without a provider that chooses the identifier it
has the URL of the discovery. -/
theorem exists_make_of_ofCandidate {candidate : Candidate} {endpoint : Endpoint}
    (made : ofCandidate candidate = .ok (some endpoint)) :
    ∃ types localId, endpoint =
      make (if types.contains OpenidType.server then none else some candidate.yadisUrl)
        candidate.uri types localId true := by
  -- Of the four ends of the function two make an endpoint.
  unfold ofCandidate at made
  dsimp only at made
  split at made
  · cases made
  split at made
  · rename_i provider
    cases made
    exact ⟨_, none, by rw [if_pos provider]⟩
  · rename_i other
    obtain ⟨localId, _, ends⟩ := bind_eq_ok_iff.mp made
    cases ends
    exact ⟨_, localId, by rw [if_neg other]⟩

/-- An endpoint of a page is not found by Yadis, and has the URL of the page; its one type is not
that of a provider that chooses the identifier. -/
theorem exists_make_of_mem_ofPage {url page : Text} {endpoint : Endpoint}
    (inside : endpoint ∈ (ofPage url page).value) :
    ∃ type serverUrl localId, type ≠ OpenidType.server ∧
      endpoint = make (some url) serverUrl [type] localId false := by
  -- Both versions are read from their own links, in the same way.
  have ofLinks : ∀ {type provider localId : Text}, type ≠ OpenidType.server →
      endpoint ∈ (ofLinks? url type provider localId (Html.links page).value).toList →
        ∃ type serverUrl localId, type ≠ OpenidType.server ∧
          endpoint = make (some url) serverUrl [type] localId false := by
    intro type provider localId other member
    rw [Option.mem_toList] at member
    obtain ⟨serverUrl, _, rfl⟩ := Option.map_eq_some_iff.mp (Option.mem_def.mp member)
    exact ⟨type, serverUrl, _, other, rfl⟩
  rcases List.mem_append.mp inside with version2 | version1
  · exact ofLinks (by decide) version2
  · exact ofLinks (by decide) version1

/-- An endpoint of a candidate claims the URL of the discovery. -/
theorem ofCandidate_claims {candidate : Candidate} {endpoint : Endpoint}
    (made : ofCandidate candidate = .ok (some endpoint)) : endpoint.Claims candidate.yadisUrl := by
  -- The endpoint was made with this URL, unless its provider chooses.
  obtain ⟨types, localId, rfl⟩ := exists_make_of_ofCandidate made
  rfl

/-- An endpoint of a page claims the URL of the page. -/
theorem claims_of_mem_ofPage {url page : Text} {endpoint : Endpoint}
    (inside : endpoint ∈ (ofPage url page).value) : endpoint.Claims url := by
  -- Its type is that of a user, so the URL is claimed.
  obtain ⟨type, serverUrl, localId, other, rfl⟩ := exists_make_of_mem_ofPage inside
  have absent : OpenidType.server ∉ [type] := by simpa using other.symm
  simp [Claims, make, isProvider, absent]

/-- The endpoints to try are among those that were found. -/
theorem mem_of_mem_preferred {endpoints : List Endpoint} {endpoint : Endpoint}
    (inside : endpoint ∈ preferred endpoints) : endpoint ∈ endpoints := by
  -- They are filtered or sorted, and nothing is added.
  unfold preferred at inside
  split at inside
  · exact (List.mem_filter.mp inside).1
  · exact List.mem_mergeSort.mp inside

end Endpoint

namespace Discovery

variable {σ : Type} {backend : Backend σ} {state : σ}

/-- Whatever a discovery settles on, its endpoints claim the source. -/
theorem Settles.claims {url source claimed : Text} {endpoints : List Endpoint}
    (settles : Settles backend state url source claimed endpoints) :
    ∀ endpoint ∈ endpoints, endpoint.Claims source := by
  -- Endpoints of a document come from candidates, the others from a page.
  intro endpoint inside
  cases settles with
  | document finds located applied nonempty normal =>
    obtain ⟨candidate, same, made⟩ :=
      Filter.exists_candidate_of_mem_apply applied (Endpoint.mem_of_mem_preferred inside)
    rw [← same]
    exact Endpoint.ofCandidate_claims made
  | page => exact Endpoint.claims_of_mem_ofPage (Endpoint.mem_of_mem_preferred inside)
  | refetched => exact Endpoint.claims_of_mem_ofPage (Endpoint.mem_of_mem_preferred inside)

/-- The endpoints of a URL claim the source of its discovery. They agree on the identifier that the
discovery reports, the normal form of the source, exactly when the source is in normal form already
or all their providers choose the identifier themselves. -/
theorem ofUrl_agrees_iff {identifier claimed : Text} {endpoints : List Endpoint}
    (ran : ((ofUrl identifier).run backend state).result = .ok (claimed, endpoints)) :
    ∃ url source, (withScheme identifier).bind normalUrl = .ok url ∧
      Settles backend state url source claimed endpoints ∧
      (∀ endpoint ∈ endpoints, endpoint.Claims source) ∧
      ((∀ endpoint ∈ endpoints, endpoint.AgreesOn claimed) ↔
        source = claimed ∨ ∀ endpoint ∈ endpoints, endpoint.isProvider = true) := by
  obtain ⟨url, source, normal, settles⟩ := ofUrl_eq_ok_iff.mp ran
  have claims := settles.claims
  refine ⟨url, source, normal, settles, claims, ?_⟩
  constructor
  · -- With another source only those agree that claim nothing.
    intro agree
    by_cases same : source = claimed
    · exact .inl same
    · refine .inr fun endpoint inside => ?_
      exact ((claims endpoint inside).agreesOn_iff.mp (agree endpoint inside)).resolve_left same
  · intro same endpoint inside
    refine (claims endpoint inside).agreesOn_iff.mpr ?_
    exact same.imp_right fun providers => providers endpoint inside

/-- The response of a page with one link to a provider, from a URL in another case. -/
def homePage : Response where
  status := 200
  headers := []
  body := "<html><head><link rel=\"openid.server\" href=\"http://op/\"></head></html>"
  finalUrl := "http://User.example.com/home"

/-- The endpoint of a page whose URL is not in normal form claims another identifier than the one
that is reported. -/
theorem ofUrl_disagrees :
    ∃ endpoints, ((ofUrl "user.example.com").run (.always homePage) ()).result =
        .ok ("http://user.example.com/home", endpoints) ∧
      ¬∀ endpoint ∈ endpoints, endpoint.AgreesOn "http://user.example.com/home" := by
  let endpoint : Endpoint := ⟨some "http://User.example.com/home", "http://op/",
    [OpenidType.signon11], none, false, none⟩
  have ran : ((ofUrl "user.example.com").run (.always homePage) ()).result =
      .ok ("http://user.example.com/home", [endpoint]) := by decide +kernel
  obtain ⟨_, source, _, _, claims, agree⟩ := ofUrl_agrees_iff ran
  refine ⟨[endpoint], ran, fun all => ?_⟩
  -- The source is the URL as the response gave it.
  have own : some "http://User.example.com/home".toList = some source := claims endpoint (.head _)
  rcases agree.mp all with same | providers
  · rw [← Option.some.inj own] at same
    exact absurd same (by decide)
  · exact absurd (providers endpoint (.head _)) (by decide)

end Discovery

end RelyingParty
