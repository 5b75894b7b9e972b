import Mathlib.Data.List.Basic
import RelyingParty.Proofs.Yadis.Discovery

/-! What a discovery finds is consistent with its requests and the answers they got. -/

namespace RelyingParty.Yadis

variable {σ α : Type} {backend : Backend σ} {state : σ}

/-- The location that the answer to a first request leads on to: the one that a complete response
names which is not the document itself. -/
def locatedBy : Except TransportFault Response → Option Text
  | .ok response =>
    if response.isComplete = true ∧ isDocument response = false then (locationOf response).value
    else none
  | .error _ => none

/-- A location that an answer leads on to is one that a complete response names which is no
document. -/
theorem locatedBy_ok_eq_some_iff {response : Response} {location : Text} :
    locatedBy (.ok response) = some location ↔ response.isComplete = true ∧
      isDocument response = false ∧ (locationOf response).value = some location := by
  simp [locatedBy, and_assoc]

/-- What follows a fetch is answered behind it, when the response is complete. -/
theorem fetches_fetchComplete_bind (url : Text) (request : Request) (next : Response → Flow α) :
    (fetchComplete url request >>= next).fetches backend state =
      ⟨request, (backend.fetch request state).1⟩ ::
        match (backend.fetch request state).1 with
        | .ok response =>
          if response.isComplete then
            (next response).fetches backend (backend.fetch request state).2
          else []
        | .error _ => [] := by
  -- The check of the response is grouped with what follows, so that the fetch stands first.
  unfold fetchComplete
  rw [bind_assoc, Flow.fetches_bind, Flow.run_request]
  dsimp only
  refine congrArg (Fetched.mk request _ :: ·) ?_
  cases (backend.fetch request state).1 with
  | error fault => rfl
  | ok response =>
    dsimp only [mapError_ok]
    cases response.isComplete with
    | true => rfl
    | false => rfl

/-- The report of a scan is no fetch. -/
theorem fetches_reportScan_bind {β : Type} (purpose : Event.ScanPurpose)
    (scanned : Html.Scanned α) (next : α → Flow β) :
    (reportScan purpose scanned >>= next).fetches backend state =
      (next scanned.value).fetches backend state := by
  -- It is reported or not, and what was found is handed on.
  unfold reportScan
  split
  · rfl
  · rw [pure_bind]

/-- A document is fetched by one request. -/
theorem fetches_fetchDocument (url location : Text) (first : Response) :
    (fetchDocument url location first).fetches backend state =
      [⟨.get location, (backend.fetch (.get location) state).1⟩] := by
  unfold fetchDocument
  rw [fetches_fetchComplete_bind]
  refine congrArg (Fetched.mk _ _ :: ·) ?_
  cases (backend.fetch (.get location) state).1 with
  | error fault => rfl
  | ok response =>
    -- The response is judged without another request.
    dsimp only
    split
    · split
      · rfl
      · rfl
    · rfl

/-- A discovery asks for the URL, and then for the location that the answer leads on to. -/
theorem fetches_discover (url : Text) :
    (discover url).fetches backend state =
      ⟨firstRequest url, (backend.fetch (firstRequest url) state).1⟩ ::
        match locatedBy (backend.fetch (firstRequest url) state).1 with
        | some location =>
          [⟨.get location,
            (backend.fetch (.get location) (backend.fetch (firstRequest url) state).2).1⟩]
        | none => [] := by
  -- The branches of the first response are those that tell whether it leads on.
  unfold discover
  rw [fetches_fetchComplete_bind]
  refine congrArg (Fetched.mk _ _ :: ·) ?_
  show (match (backend.fetch (firstRequest url) state).1 with
    | .ok response => _
    | .error _ => []) = _
  cases (backend.fetch (firstRequest url) state).1 with
  | error fault => rfl
  | ok response =>
    dsimp only [locatedBy]
    by_cases complete : response.isComplete = true
    · by_cases document : (response.header? "content-type").any isDocumentType = true
      · have other : isDocument response ≠ false := ne_false_of_eq_true document
        rw [if_pos complete, if_pos document, if_neg fun both => other both.2]
        rfl
      · -- A page leads on exactly when it names a location.
        have page : isDocument response = false := eq_false_of_ne_true document
        rw [if_pos complete, if_neg document, if_pos ⟨complete, page⟩, fetches_reportScan_bind]
        cases (locationOf response).value with
        | none => rfl
        | some location => exact fetches_fetchDocument url location response
    · rw [if_neg complete, if_neg fun both => complete both.1]

/-- What a finding says of the fetches that led to it, of which the first was answered with one
response and the last with the one whose body is kept. -/
structure Finding.Agrees (finding : Finding) (url : Text) (asked : List Fetched)
    (first kept : Response) : Prop where
  /-- One or two requests are made, the first one for the URL. -/
  started : ∃ later, asked = ⟨firstRequest url, .ok first⟩ :: later ∧ later.length ≤ 1
  last : asked.getLast?.map Fetched.answer = some (.ok kept)
  complete : ∀ fetched ∈ asked, ∃ response, fetched.answer = .ok response ∧
    response.isComplete = true
  normalizedUrl : finding.normalizedUrl = first.finalUrl
  body : finding.body = kept.body
  contentType : finding.contentType = kept.header? "content-type"
  located : finding.isXrds = finding.xrdsUrl.isSome
  document : finding.isXrds = isDocument kept
  xrdsUrl : finding.isXrds = true → finding.xrdsUrl = some kept.finalUrl
  /-- Without a document the body is that of the only response, which names no location. -/
  page : finding.isXrds = false → asked.length = 1 ∧ kept = first ∧ (locationOf first).value = none

/-- A finding agrees with the fetches of its discovery. -/
theorem Finds.agrees {url : Text} {finding : Finding} (finds : Finds backend state url finding) :
    ∃ first kept, finding.Agrees url ((discover url).fetches backend state) first kept := by
  -- Each way to find something is a list of one or two fetches.
  have located := finds.isXrds_eq
  rw [fetches_discover]
  cases finds with
  | @direct first after answered complete document =>
    have here : locatedBy (.ok first) = none := by simp [locatedBy, document]
    rw [answered, here]
    exact ⟨first, first, {
      started := ⟨[], rfl, Nat.zero_le 1⟩
      last := rfl
      complete := by simpa using complete
      normalizedUrl := rfl
      body := rfl
      contentType := rfl
      located
      document := located.trans document.symm
      xrdsUrl := fun _ => rfl
      page := fun absent => absurd (located.symm.trans absent) Bool.noConfusion }⟩
  | @absent first after answered complete page names =>
    -- A page without a location is the whole finding, and no document.
    have here : locatedBy (.ok first) = none := by simp [locatedBy, names]
    rw [answered, here]
    exact ⟨first, first, {
      started := ⟨[], rfl, Nat.zero_le 1⟩
      last := rfl
      complete := by simpa using complete
      normalizedUrl := rfl
      body := rfl
      contentType := rfl
      located
      document := located.trans page.symm
      xrdsUrl := fun xrds => absurd (located.symm.trans xrds) Bool.noConfusion
      page := fun _ => ⟨rfl, rfl, names⟩ }⟩
  | @located first second after last location answered complete page names fetched whole document =>
    -- The location is fetched second, and only the body and its type are taken from it.
    have there := locatedBy_ok_eq_some_iff.mpr ⟨complete, page, names⟩
    simp only [answered, there, fetched]
    exact ⟨first, second, {
      started := ⟨_, rfl, Nat.le_refl 1⟩
      last := rfl
      complete := by simpa using ⟨complete, whole⟩
      normalizedUrl := rfl
      body := rfl
      contentType := rfl
      located
      document := located.trans document.symm
      xrdsUrl := fun _ => rfl
      page := fun absent => absurd (located.symm.trans absent) Bool.noConfusion }⟩

/-- Whether some fetches obtained a document: their last answer is a complete response that is one,
and their first answer is a response as well. -/
structure Obtains (asked : List Fetched) (first document : Response) : Prop where
  -- Both answers may be the same one.
  first : asked.head?.map Fetched.answer = some (.ok first)
  last : asked.getLast?.map Fetched.answer = some (.ok document)
  complete : document.isComplete = true
  document : isDocument document = true

/-- A finding with a document was obtained as one. -/
theorem Finds.obtains {url : Text} {finding : Finding} (finds : Finds backend state url finding)
    (located : finding.isXrds = true) :
    ∃ first document, Obtains ((discover url).fetches backend state) first document ∧
      finding.normalizedUrl = first.finalUrl ∧ finding.body = document.body := by
  -- The last of the fetches is the one whose body was kept.
  obtain ⟨first, kept, agrees⟩ := finds.agrees
  obtain ⟨later, asked, _⟩ := agrees.started
  obtain ⟨fetched, last, answer⟩ := Option.map_eq_some_iff.mp agrees.last
  obtain ⟨response, answer', complete⟩ := agrees.complete fetched (List.mem_of_getLast? last)
  cases answer.symm.trans answer'
  exact ⟨first, kept, {
    first := by rw [asked]; rfl
    last := agrees.last
    complete
    document := agrees.document.symm.trans located }, agrees.normalizedUrl, agrees.body⟩

/-- Where a document was obtained, it is found. -/
theorem Obtains.exists_finds {url : Text} {first document : Response}
    (obtained : Obtains ((discover url).fetches backend state) first document) :
    ∃ finding, Finds backend state url finding ∧ finding.isXrds = true ∧
      finding.normalizedUrl = first.finalUrl ∧ finding.body = document.body := by
  -- The document is the first response, or the location has answered with it.
  obtain ⟨head, last, complete, isOne⟩ := obtained
  rw [fetches_discover] at head last
  cases answered : backend.fetch (firstRequest url) state with
  | mk answer after =>
  rw [answered] at head last
  cases head
  cases there : locatedBy (.ok first) with
  | none =>
    rw [there] at last
    cases last
    have finds := Finds.direct answered complete isOne
    exact ⟨_, finds, finds.isXrds_eq, rfl, rfl⟩
  | some location =>
    -- The last fetch is the second one, of the location.
    obtain ⟨whole, page, names⟩ := locatedBy_ok_eq_some_iff.mp there
    cases fetched : backend.fetch (.get location) after with
    | mk answer final =>
    simp only [there, fetched] at last
    cases last
    have finds := Finds.located answered whole page names fetched complete isOne
    exact ⟨_, finds, finds.isXrds_eq, rfl, rfl⟩

/-- What a discovery finds is consistent. One or two complete responses were fetched, of which the
first gives the URL behind redirects and the last the body; the finding says that this is a document
exactly when it is one by its media type, and then gives its URL, while without a document nothing
was located. A location that does not answer with a complete document leads to no finding. -/
theorem discover_consistent (backend : Backend σ) (state : σ) (url : Text) :
    ((discover url).run backend state).requests =
        ((discover url).fetches backend state).map Fetched.request ∧
      (∀ finding, ((discover url).run backend state).result = .ok finding →
        ∃ first kept, finding.Agrees url ((discover url).fetches backend state) first kept) ∧
      ∀ fetched, ((discover url).fetches backend state)[1]? = some fetched →
        (∀ response, fetched.answer = .ok response → response.isComplete = true →
          isDocument response = false) →
        ∀ finding, ((discover url).run backend state).result ≠ .ok finding := by
  refine ⟨Flow.run_requests_eq .., fun finding found => (discover_eq_ok_iff.mp found).agrees, ?_⟩
  intro fetched second refused finding found
  obtain ⟨first, kept, agrees⟩ := (discover_eq_ok_iff.mp found).agrees
  obtain ⟨later, asked, few⟩ := agrees.started
  -- The location was the last to be asked, so its answer is the one whose body is kept.
  obtain rfl : later = [fetched] := by
    cases later with
    | nil => simp [asked] at second
    | cons next rest =>
      obtain rfl : rest = [] := by simpa using few
      simpa [asked] using second
  have answer : fetched.answer = .ok kept := by simpa [asked] using agrees.last
  obtain ⟨response, answer', complete⟩ := agrees.complete fetched (by simp [asked])
  cases answer.symm.trans answer'
  -- So the finding is a page, for which nothing was located, although a location was asked.
  have page : finding.isXrds = false := agrees.document.trans (refused kept answer complete)
  have alone := (agrees.page page).1
  simp [asked] at alone

/-- A page that names its own URL as the location of a document. -/
def selfLocatingPage : Response where
  status := 200
  headers := [("x-xrds-location", "http://user.example.com/")]
  body := "page"
  finalUrl := "http://user.example.com/"

/-- The document that answers when the URL is asked again. -/
def locatedDocument : Response where
  status := 206
  headers := [("content-type", "Application/XRDS+XML; charset=utf-8")]
  body := "document"
  finalUrl := "http://user.example.com/"

/-- A location that leads back to the first URL is told from a page by the media type alone. -/
theorem discover_consistent_back :
    ∃ finding first kept,
      ((discover "http://user.example.com/").run .script [selfLocatingPage, locatedDocument]).result
        = .ok finding ∧
      finding.usedLocation = false ∧ finding.isXrds = true ∧
      finding.Agrees "http://user.example.com/"
        ((discover "http://user.example.com/").fetches .script [selfLocatingPage, locatedDocument])
        first kept := by
  -- The finding is evaluated, and that it agrees is the general statement.
  let finding : Finding := ⟨"http://user.example.com/", "http://user.example.com/",
    some "http://user.example.com/", some "Application/XRDS+XML; charset=utf-8", "document"⟩
  have found : ((discover "http://user.example.com/").run .script
      [selfLocatingPage, locatedDocument]).result = .ok finding := by decide +kernel
  obtain ⟨first, kept, agrees⟩ := (discover_consistent _ _ _).2.1 finding found
  exact ⟨finding, first, kept, found, by decide +kernel, by decide +kernel, agrees⟩

end RelyingParty.Yadis
