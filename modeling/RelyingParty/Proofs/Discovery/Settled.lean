import RelyingParty.Discovery
import RelyingParty.Proofs.Yadis.Discovery

/-! What the discovery of a URL settles on, by the answers of a backend. -/

namespace RelyingParty.Discovery

variable {σ : Type} {backend : Backend σ} {state : σ}

/-- Endpoints are settled on with the identifier that was claimed, and with no fault when there is
one. -/
theorem settle_eq_ok_iff {source : EndpointSource} {claimed : Except Fault Text}
    {endpoints list : List Endpoint} {id : Text} :
    ((settle source claimed endpoints).run backend state).result = .ok (id, list) ↔
      claimed = .ok id ∧ list = Endpoint.preferred endpoints := by
  -- The report is no part of the result.
  cases claimed with
  | error fault => exact iff_of_false (by rintro ⟨⟩) (by rintro ⟨⟨⟩, _⟩)
  | ok claimed =>
    show Except.ok (claimed, Endpoint.preferred endpoints) = Except.ok (id, list) ↔ _
    simp [eq_comm]

/-- The endpoints of a page are settled on, whether or not its scan was stopped. -/
theorem ofPage_eq_ok_iff {url page : Text} {claimed : Except Fault Text} {id : Text}
    {list : List Endpoint} :
    ((ofPage url page claimed).run backend state).result = .ok (id, list) ↔
      claimed = .ok id ∧ list = Endpoint.preferred (Endpoint.ofPage url page).value := by
  -- A scan that was stopped has found links all the same.
  unfold ofPage
  rw [Yadis.run_reportScan_bind_result, settle_eq_ok_iff]

/-- A URL that is fetched again has the endpoints of the page that answers, which claim its normal
form. -/
theorem refetched_eq_ok_iff {url id : Text} {list : List Endpoint} :
    ((refetched url).run backend state).result = .ok (id, list) ↔
      ∃ response after, backend.fetch (.get url) state = (.ok response, after) ∧
        response.isComplete = true ∧ normalUrl response.finalUrl = .ok id ∧
        list = Endpoint.preferred (Endpoint.ofPage id response.body).value := by
  unfold refetched
  rw [Yadis.fetchComplete_bind_eq_ok_iff]
  refine exists_congr fun response => exists_congr fun after => ?_
  refine and_congr_right fun _ => and_congr_right fun _ => ?_
  -- The URL is normalized before the page is looked at.
  cases normal : normalUrl response.finalUrl with
  | error fault => exact iff_of_false (by rintro ⟨⟩) (by rintro ⟨⟨⟩, _⟩)
  | ok claimed =>
    show ((ofPage claimed response.body (.ok claimed)).run backend after).result = _ ↔ _
    -- The identifier is known, so only the endpoints are left.
    rw [ofPage_eq_ok_iff, Except.ok.injEq]
    constructor
    · rintro ⟨rfl, made⟩
      exact ⟨rfl, made⟩
    · rintro ⟨rfl, made⟩
      exact ⟨rfl, made⟩

/-- A document whose endpoints are taken is one that the filter makes some of. -/
theorem documentEndpoints_eq_ok_iff {finding : Yadis.Finding} {made : List Endpoint}
    (nonempty : made ≠ []) :
    documentEndpoints finding = .ok made ↔ finding.isXrds = true ∧
      Endpoint.openidFilter.apply finding.normalizedUrl finding.body = .ok made := by
  unfold documentEndpoints
  cases finding.isXrds with
  | false => simpa using nonempty.symm
  | true =>
    cases Endpoint.openidFilter.apply finding.normalizedUrl finding.body with
    | ok list => simp
    | error fault =>
      -- What cannot be read has no endpoints at all.
      cases fault with
      | filter fault => simp
      | document fault =>
        cases fraud : fault.isFraud with
        | true => simp [fraud]
        | false => simpa [fraud] using nonempty.symm

/-- What the discovery of a normalized URL settles on: the endpoints of its document, those of its
page when it has no document, or those of the page that is fetched again when the document has none.
The source is the URL that the endpoints are made for, and its normal form is claimed; of a page
that is fetched again the normal form itself is the source. -/
inductive Settles (backend : Backend σ) (state : σ) (url : Text) :
    (source claimed : Text) → List Endpoint → Prop
  -- Only here the endpoints are those of a document.
  | document {finding : Yadis.Finding} {made : List Endpoint} {claimed : Text}
    (finds : Yadis.Finds backend state url finding) (located : finding.isXrds = true)
    (applied : Endpoint.openidFilter.apply finding.normalizedUrl finding.body = .ok made)
    (nonempty : made ≠ []) (normal : normalUrl finding.normalizedUrl = .ok claimed) :
    Settles backend state url finding.normalizedUrl claimed (Endpoint.preferred made)
  | page {finding : Yadis.Finding} {claimed : Text}
    (finds : Yadis.Finds backend state url finding) (absent : finding.isXrds = false)
    (normal : normalUrl finding.normalizedUrl = .ok claimed) :
    Settles backend state url finding.normalizedUrl claimed
      (Endpoint.preferred (Endpoint.ofPage finding.normalizedUrl finding.body).value)
  | refetched {finding : Yadis.Finding} {response : Response} {after : σ} {claimed : Text}
    (finds : Yadis.Finds backend state url finding) (located : finding.isXrds = true)
    (nothing : documentEndpoints finding = .ok [])
    (answered : backend.fetch (.get url) ((Yadis.discover url).run backend state).state =
      (.ok response, after))
    (complete : response.isComplete = true) (normal : normalUrl response.finalUrl = .ok claimed) :
    Settles backend state url claimed claimed
      (Endpoint.preferred (Endpoint.ofPage claimed response.body).value)

/-- The discovery of a normalized URL succeeds with exactly what it settles on. -/
theorem ofNormalUrl_eq_ok_iff {url id : Text} {list : List Endpoint} :
    ((ofNormalUrl url).run backend state).result = .ok (id, list) ↔
      ∃ source, Settles backend state url source id list := by
  unfold ofNormalUrl
  rw [Flow.run_bind_eq_ok_iff]
  constructor
  · -- The branches are the ways to settle, in their order.
    rintro ⟨finding, found, ends⟩
    have finds := Yadis.discover_eq_ok_iff.mp found
    cases made : documentEndpoints finding with
    | error fault =>
      rw [made] at ends
      cases ends
    | ok endpoints =>
      rw [made, Flow.done_ok_bind] at ends
      split at ends
      · rename_i nonempty
        obtain ⟨normal, rfl⟩ := settle_eq_ok_iff.mp ends
        obtain ⟨located, applied⟩ := (documentEndpoints_eq_ok_iff nonempty).mp made
        exact ⟨_, .document finds located applied nonempty normal⟩
      · -- No endpoint was made, so a document leads to another fetch and a page to its links.
        rename_i empty
        obtain rfl : endpoints = [] := Decidable.not_not.mp empty
        split at ends
        · rename_i located
          obtain ⟨response, after, answered, complete, normal, rfl⟩ :=
            refetched_eq_ok_iff.mp ends
          exact ⟨_, .refetched finds located made answered complete normal⟩
        · rename_i absent
          obtain ⟨normal, rfl⟩ := ofPage_eq_ok_iff.mp ends
          exact ⟨_, .page finds (eq_false_of_ne_true absent) normal⟩
  · -- Each way to settle is run, step by step.
    rintro ⟨source, settles⟩
    cases settles with
    | document finds located applied nonempty normal =>
      refine ⟨_, Yadis.discover_eq_ok_iff.mpr finds, ?_⟩
      rw [(documentEndpoints_eq_ok_iff nonempty).mpr ⟨located, applied⟩, Flow.done_ok_bind,
        if_pos nonempty]
      exact settle_eq_ok_iff.mpr ⟨normal, rfl⟩
    | @page finding _ finds absent normal =>
      refine ⟨_, Yadis.discover_eq_ok_iff.mpr finds, ?_⟩
      have nothing : documentEndpoints finding = .ok [] := if_neg (by simp [absent])
      rw [nothing, Flow.done_ok_bind, if_neg (by simp), if_neg (by simp [absent])]
      exact ofPage_eq_ok_iff.mpr ⟨normal, rfl⟩
    | refetched finds located nothing answered complete normal =>
      refine ⟨_, Yadis.discover_eq_ok_iff.mpr finds, ?_⟩
      rw [nothing, Flow.done_ok_bind, if_neg (by simp), if_pos located]
      exact refetched_eq_ok_iff.mpr ⟨_, _, answered, complete, normal, rfl⟩

/-- The discovery of an identifier succeeds with what its normal form as a URL settles on. -/
theorem ofUrl_eq_ok_iff {identifier id : Text} {list : List Endpoint} :
    ((ofUrl identifier).run backend state).result = .ok (id, list) ↔
      ∃ url source, (withScheme identifier).bind normalUrl = .ok url ∧
        Settles backend state url source id list := by
  -- A fault in front of the chain ends the discovery.
  unfold ofUrl
  cases (withScheme identifier).bind normalUrl with
  | error fault => exact iff_of_false (by rintro ⟨⟩) (by rintro ⟨_, _, ⟨⟩, _⟩)
  | ok url =>
    show ((Flow.observe ..).run backend state).result = _ ↔ _
    rw [Flow.run_observe_result, ofNormalUrl_eq_ok_iff]
    simp

end RelyingParty.Discovery
