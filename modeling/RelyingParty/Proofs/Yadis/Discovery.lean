import RelyingParty.Proofs.Flow
import RelyingParty.Yadis

/-! Which answers of a backend lead a discovery to an XRDS document. -/

namespace RelyingParty.Yadis

variable {σ α : Type} {backend : Backend σ} {state : σ}

/-- Whether a response is an XRDS document by its content type. -/
def isDocument (response : Response) : Bool := (response.header? "content-type").any isDocumentType

/-- The first request of a discovery. -/
def firstRequest (url : Text) : Request := (Request.get url).withHeader "Accept" acceptHeader

/-- What a discovery finds by the answers of a backend: the first response is complete, and is the
document itself, or names no location, or names the location where a second complete response is
the document. The URL behind the redirects is always that of the first response. -/
inductive Finds (backend : Backend σ) (state : σ) (url : Text) : Finding → Prop
  | direct {first : Response} {after : σ}
    (answered : backend.fetch (firstRequest url) state = (.ok first, after))
    (complete : first.isComplete = true) (document : isDocument first = true) :
    Finds backend state url
      ⟨url, first.finalUrl, some first.finalUrl, first.header? "content-type", first.body⟩
  | absent {first : Response} {after : σ}
    (answered : backend.fetch (firstRequest url) state = (.ok first, after))
    (complete : first.isComplete = true) (page : isDocument first = false)
    (names : (locationOf first).value = none) :
    Finds backend state url
      ⟨url, first.finalUrl, none, first.header? "content-type", first.body⟩
  | located {first second : Response} {after last : σ} {location : Text}
    (answered : backend.fetch (firstRequest url) state = (.ok first, after))
    (complete : first.isComplete = true) (page : isDocument first = false)
    (names : (locationOf first).value = some location)
    (fetched : backend.fetch (.get location) after = (.ok second, last))
    (whole : second.isComplete = true) (document : isDocument second = true) :
    Finds backend state url
      ⟨url, first.finalUrl, some second.finalUrl, second.header? "content-type", second.body⟩

/-- A finding has a document exactly when it has the URL of one. -/
theorem Finds.isXrds_eq {url : Text} {finding : Finding} (finds : Finds backend state url finding) :
    finding.isXrds = finding.xrdsUrl.isSome := by
  -- A finding has the URL of a document in two of the three ways to find something.
  cases finds with
  | @direct first _ answered complete document =>
    show (_ || isDocument first) = true
    rw [document, Bool.or_true]
  | absent answered complete page names => exact page
  | @located first second _ _ _ answered complete page names fetched whole document =>
    show (_ || isDocument second) = true
    rw [document, Bool.or_true]

/-- The URL behind the redirects is that of the first response, whatever comes behind it. -/
theorem Finds.normalizedUrl_eq {url : Text} {finding : Finding} {first : Response} {after : σ}
    (finds : Finds backend state url finding)
    (answered : backend.fetch (firstRequest url) state = (.ok first, after)) :
    finding.normalizedUrl = first.finalUrl := by
  -- Each way starts with this response.
  cases finds with
  | direct answered' => cases answered.symm.trans answered'; rfl
  | absent answered' => cases answered.symm.trans answered'; rfl
  | located answered' => cases answered.symm.trans answered'; rfl

/-- What follows a fetch of a complete response has a value exactly when the backend gives such a
response and what follows has the value for it. -/
theorem fetchComplete_bind_eq_ok_iff {url : Text} {request : Request} {next : Response → Flow α}
    {value : α} :
    ((fetchComplete url request >>= next).run backend state).result = .ok value ↔
      ∃ response after, backend.fetch request state = (.ok response, after) ∧
        response.isComplete = true ∧ ((next response).run backend after).result = .ok value := by
  -- The check of the response is grouped with what follows, so that the request stands first.
  unfold fetchComplete
  rw [bind_assoc, Flow.run_bind_eq_ok_iff, Flow.run_request]
  obtain ⟨outcome, after⟩ := backend.fetch request state
  cases outcome with
  | error fault => simp
  | ok response =>
    by_cases complete : response.isComplete = true
    · constructor
      · rintro ⟨_, answered, ends⟩
        cases answered
        rw [if_pos complete, pure_bind] at ends
        exact ⟨response, after, rfl, complete, ends⟩
      · rintro ⟨_, _, answered, _, ends⟩
        cases answered
        refine ⟨response, rfl, ?_⟩
        rw [if_pos complete, pure_bind]
        exact ends
    · -- An incomplete response is a fault, so what follows is not run.
      simp [complete, Flow.run_bind_result, Flow.fail, Flow.run]

/-- A fetch of a complete response succeeds exactly when the backend gives one. -/
theorem fetchComplete_eq_ok_iff {url : Text} {request : Request} {response : Response} :
    ((fetchComplete url request).run backend state).result = .ok response ↔
      ∃ after, backend.fetch request state = (.ok response, after) ∧
        response.isComplete = true := by
  -- Nothing follows, so the value is the response.
  rw [← bind_pure (fetchComplete url request), fetchComplete_bind_eq_ok_iff]
  constructor
  · rintro ⟨_, after, answered, complete, ⟨⟩⟩
    exact ⟨after, answered, complete⟩
  · rintro ⟨after, answered, complete⟩
    exact ⟨response, after, answered, complete, rfl⟩

/-- The report of a scan gives what was found. -/
theorem run_reportScan_result (purpose : Event.ScanPurpose) (scanned : Html.Scanned α) :
    ((reportScan purpose scanned).run backend state).result = .ok scanned.value := by
  -- With or without a report, the value is the same.
  unfold reportScan
  split
  · rfl
  · rfl

/-- The report of a scan does not change what follows from what was found. -/
theorem run_reportScan_bind_result {β : Type} (purpose : Event.ScanPurpose)
    (scanned : Html.Scanned α) (next : α → Flow β) :
    ((reportScan purpose scanned >>= next).run backend state).result =
      ((next scanned.value).run backend state).result := by
  -- What follows is given the same value.
  unfold reportScan
  split
  · rfl
  · rw [pure_bind]

/-- A document is fetched exactly when the second response is complete and one. -/
theorem fetchDocument_eq_ok_iff {url location : Text} {first : Response} {finding : Finding} :
    ((fetchDocument url location first).run backend state).result = .ok finding ↔
      ∃ second last, backend.fetch (.get location) state = (.ok second, last) ∧
        second.isComplete = true ∧ isDocument second = true ∧
        finding = ⟨url, first.finalUrl, some second.finalUrl, second.header? "content-type",
          second.body⟩ := by
  unfold fetchDocument
  rw [fetchComplete_bind_eq_ok_iff]
  -- Behind the fetch nothing is asked of the backend any more.
  have judged : ∀ (second : Response) (last : σ),
      ((if isDocument second then
          pure ⟨url, first.finalUrl, some second.finalUrl, second.header? "content-type",
            second.body⟩
        else Flow.fail (.discovery second.finalUrl (.notXrds (second.header? "content-type"))) :
          Flow Finding).run backend last).result = .ok finding ↔
        isDocument second = true ∧ finding =
          ⟨url, first.finalUrl, some second.finalUrl, second.header? "content-type",
            second.body⟩ := by
    intro second last
    cases isDocument second with
    | true => simp [Flow.run, pure, eq_comm]
    | false => simp [Flow.fail, Flow.run]
  exact exists_congr fun second => exists_congr fun last =>
    and_congr_right fun _ => and_congr_right fun _ => judged second last

/-- A discovery succeeds with exactly the finding that the answers of the backend lead to. -/
theorem discover_eq_ok_iff {url : Text} {finding : Finding} :
    ((discover url).run backend state).result = .ok finding ↔ Finds backend state url finding := by
  unfold discover
  rw [fetchComplete_bind_eq_ok_iff]
  constructor
  · -- The branches of the discovery are the ways to find something, in their order.
    rintro ⟨first, after, answered, complete, ends⟩
    dsimp only at ends
    split at ends
    · cases ends
      exact .direct answered complete ‹_›
    · rename_i page
      rw [run_reportScan_bind_result] at ends
      cases names : (locationOf first).value with
      | none =>
        rw [names] at ends
        cases ends
        exact .absent answered complete (eq_false_of_ne_true page) names
      | some location =>
        rw [names] at ends
        obtain ⟨second, last, fetched, whole, document, rfl⟩ := fetchDocument_eq_ok_iff.mp ends
        exact .located answered complete (eq_false_of_ne_true page) names fetched whole
          document
  · intro finds
    -- Conversely each way to find something is a run of its branch.
    cases finds with
    | direct answered complete document =>
      refine ⟨_, _, answered, complete, ?_⟩
      rw [isDocument] at document
      simp only [document]
      rfl
    | absent answered complete page names =>
      refine ⟨_, _, answered, complete, ?_⟩
      rw [isDocument] at page
      simp only [page, Bool.false_eq_true, if_false, run_reportScan_bind_result, names]
      rfl
    | located answered complete page names fetched whole document =>
      refine ⟨_, _, answered, complete, ?_⟩
      rw [isDocument] at page
      simp only [page, Bool.false_eq_true, if_false, run_reportScan_bind_result, names]
      exact fetchDocument_eq_ok_iff.mpr ⟨_, _, fetched, whole, document, rfl⟩

/-- Endpoints are those that the filter makes of the document that was found, and none without one,
together with the URL behind the redirects. -/
theorem endpoints_eq_ok_iff {ε : Type} {filter : Filter ε} {url finalUrl : Text} {list : List ε} :
    ((endpoints filter url).run backend state).result = .ok (finalUrl, list) ↔
      ∃ finding, Finds backend state url finding ∧ finding.normalizedUrl = finalUrl ∧
        (if finding.xrdsUrl.isSome then filter.apply finding.normalizedUrl finding.body = .ok list
          else list = []) := by
  rw [endpoints, Flow.run_observe_result, filtered, Flow.run_bind_eq_ok_iff]
  refine exists_congr fun finding => ?_
  rw [discover_eq_ok_iff]
  -- The flow asks whether the finding is a document, and not whether it has the URL of one.
  refine and_congr_right fun finds => ?_
  rw [← finds.isXrds_eq]
  cases finding.isXrds with
  | false => simp [Flow.run, pure, eq_comm]
  | true =>
    cases filter.apply finding.normalizedUrl finding.body with
    | ok endpoints => simp [Flow.run, pure]
    | error fault => simp [Flow.fail, Flow.run]

end RelyingParty.Yadis
