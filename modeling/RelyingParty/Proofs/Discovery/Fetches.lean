import RelyingParty.Proofs.Discovery.ClaimedIdentifier
import RelyingParty.Proofs.Yadis.Consistency

/-! A URL is discovered by at most three requests, and its endpoints come from one source. -/

namespace RelyingParty

namespace Endpoint

/-- The endpoints to try of a document were found by Yadis. -/
theorem usedYadis_of_apply {yadisUrl body : Text} {made : List Endpoint}
    (applied : openidFilter.apply yadisUrl body = .ok made) :
    ∀ endpoint ∈ preferred made, endpoint.usedYadis = true := by
  -- The preferred ones are among those made, and every rule marks what it makes.
  intro endpoint inside
  obtain ⟨_, _, rule⟩ :=
    Filter.exists_candidate_of_mem_apply applied (mem_of_mem_preferred inside)
  obtain ⟨_, _, rfl⟩ := exists_make_of_ofCandidate rule
  rfl

/-- The endpoints to try of a page were not found by Yadis. -/
theorem usedYadis_of_ofPage {url page : Text} :
    ∀ endpoint ∈ preferred (ofPage url page).value, endpoint.usedYadis = false := by
  -- The same with the links of a page, which leave the mark out.
  intro endpoint inside
  obtain ⟨_, _, _, _, rfl⟩ := exists_make_of_mem_ofPage (mem_of_mem_preferred inside)
  rfl

end Endpoint

/-- A text that is no XRDS document is no fraud. -/
theorem Xrds.isFraud_of_parse {text : Text} {fault : XrdsFault}
    (refused : Xrds.parse text = .error fault) : fault.isFraud = false := by
  -- Such a text is refused as malformed or for its root, and for nothing else.
  unfold Xrds.parse at refused
  split at refused
  · cases refused
    rfl
  · split at refused
    · cases refused
    · cases refused
      rfl

namespace Discovery

variable {σ : Type} {backend : Backend σ} {state : σ}

/-- Whether a body gives no endpoint: it is not read as a document, or has no description, or the
filter makes nothing of it. -/
def Barren (yadisUrl body : Text) : Prop :=
  (∃ fault, Xrds.parse body = .error fault) ∨
    (∃ document, Xrds.parse body = .ok document ∧ document.xrds = []) ∨
      Endpoint.openidFilter.apply yadisUrl body = .ok []

/-- A document has no endpoints exactly when its body gives none. -/
theorem documentEndpoints_eq_nil_iff {finding : Yadis.Finding} (located : finding.isXrds = true) :
    documentEndpoints finding = .ok [] ↔ Barren finding.normalizedUrl finding.body := by
  unfold documentEndpoints Barren
  rw [if_pos located]
  -- A text that is no document and a document without a description are passed over alike.
  cases parsed : Xrds.parse finding.body with
  | error fault =>
    have applied : Endpoint.openidFilter.apply finding.normalizedUrl finding.body =
        .error (.document fault) := by
      simp [Filter.apply, parsed, bind, Except.bind]
    simp [applied, Xrds.isFraud_of_parse parsed]
  | ok document =>
    cases own : document.xrds.getLast? with
    | none =>
      have applied : Endpoint.openidFilter.apply finding.normalizedUrl finding.body =
          .error (.document .missingXrd) := by
        simp [Filter.apply, parsed, Xrds.services, own, bind, Except.bind]
      have nothing : document.xrds = [] := List.getLast?_eq_none_iff.mp own
      simp [applied, nothing, XrdsFault.isFraud]
    | some xrd =>
      have something : document.xrds ≠ [] := by
        intro nothing
        simp [nothing] at own
      -- The document is read, so that only the filter can fail.
      have applied : Endpoint.openidFilter.apply finding.normalizedUrl finding.body =
          (Endpoint.openidFilter.endpointsByPriority finding.normalizedUrl xrd.services).mapError
            .filter := by
        simp [Filter.apply, parsed, Xrds.services, own, bind, Except.bind]
      rw [applied]
      cases Endpoint.openidFilter.endpointsByPriority finding.normalizedUrl xrd.services with
      | ok list => simp [something]
      | error fault => simp [something]

/-- Endpoints are settled on without a request. -/
theorem fetches_settle (source : EndpointSource) (claimed : Except Fault Text)
    (endpoints : List Endpoint) : (settle source claimed endpoints).fetches backend state = [] := by
  -- What is left is a report and a result.
  cases claimed with
  | ok claimed => rfl
  | error fault => rfl

/-- The endpoints of a page are settled on without a request. -/
theorem fetches_ofPage (url page : Text) (claimed : Except Fault Text) :
    (ofPage url page claimed).fetches backend state = [] := by
  -- The scan is reported, which asks for nothing.
  unfold ofPage
  rw [Yadis.fetches_reportScan_bind, fetches_settle]

/-- A URL is fetched again by one request without headers. -/
theorem fetches_refetched (url : Text) :
    (refetched url).fetches backend state = [⟨.get url, (backend.fetch (.get url) state).1⟩] := by
  -- Whatever the response is, the rest is a matter of its page.
  unfold refetched
  rw [Yadis.fetches_fetchComplete_bind]
  refine congrArg (Fetched.mk _ _ :: ·) ?_
  cases (backend.fetch (.get url) state).1 with
  | error fault => rfl
  | ok response =>
    dsimp only
    split
    · cases normalUrl response.finalUrl with
      | error fault => rfl
      | ok claimed => exact fetches_ofPage claimed response.body (.ok claimed)
    · rfl

/-- Whether some fetches obtained a document whose body gives no endpoint. -/
def Fruitless (asked : List Fetched) : Prop :=
  ∃ first document, Yadis.Obtains asked first document ∧ Barren first.finalUrl document.body

/-- The fetches of a Yadis discovery are fruitless exactly when it finds a document that has no
endpoints. -/
theorem fruitless_iff {url : Text} :
    Fruitless ((Yadis.discover url).fetches backend state) ↔
      ∃ finding, ((Yadis.discover url).run backend state).result = .ok finding ∧
        finding.isXrds = true ∧ documentEndpoints finding = .ok [] := by
  -- The document that was obtained and the one that was found are the same body.
  constructor
  · rintro ⟨first, document, obtained, barren⟩
    obtain ⟨finding, finds, located, normalized, body⟩ := obtained.exists_finds
    refine ⟨finding, Yadis.discover_eq_ok_iff.mpr finds, located, ?_⟩
    rw [documentEndpoints_eq_nil_iff located, normalized, body]
    exact barren
  · rintro ⟨finding, found, located, nothing⟩
    obtain ⟨first, document, obtained, normalized, body⟩ :=
      (Yadis.discover_eq_ok_iff.mp found).obtains located
    refine ⟨first, document, obtained, ?_⟩
    rw [documentEndpoints_eq_nil_iff located, normalized, body] at nothing
    exact nothing

/-- Behind the Yadis discovery of a URL the URL is fetched again when that was fruitless, and
nothing is fetched otherwise. -/
theorem fetches_ofNormalUrl (backend : Backend σ) (state : σ) (url : Text) :
    ∃ last, (ofNormalUrl url).fetches backend state =
        (Yadis.discover url).fetches backend state ++ last ∧
      (Fruitless ((Yadis.discover url).fetches backend state) →
        last = [⟨.get url,
          (backend.fetch (.get url) ((Yadis.discover url).run backend state).state).1⟩]) ∧
      (¬Fruitless ((Yadis.discover url).fetches backend state) → last = []) := by
  unfold ofNormalUrl
  rw [Flow.fetches_bind, fruitless_iff]
  refine ⟨_, rfl, ?_, ?_⟩
  · -- Without endpoints in the document, the URL is asked once more.
    rintro ⟨finding, found, located, nothing⟩
    simp only [found, nothing, Flow.done_ok_bind, if_neg (not_not.mpr rfl), if_pos located,
      fetches_refetched]
  · -- Each other end settles or fails, and neither asks for anything.
    intro fruitful
    cases found : ((Yadis.discover url).run backend state).result with
    | error fault => rfl
    | ok finding =>
      cases made : documentEndpoints finding with
      | error fault =>
        simp only [made]
        rfl
      | ok endpoints =>
        simp only [made, Flow.done_ok_bind]
        split
        · exact fetches_settle ..
        · rename_i empty
          obtain rfl : endpoints = [] := not_not.mp empty
          have page : ¬finding.isXrds = true := fun located =>
            fruitful ⟨finding, found, located, made⟩
          rw [if_neg page]
          exact fetches_ofPage ..

/-- Where the endpoints of a URL come from, by the fetches of its Yadis discovery and those behind
them: the document that was obtained, the links of the first response when no document was located,
or the links of the response that was fetched again. -/
inductive Sourced (url : Text) (tried last : List Fetched) (id : Text) : List Endpoint → Prop
  | document {first document : Response} {made : List Endpoint}
    (obtained : Yadis.Obtains tried first document)
    (applied : Endpoint.openidFilter.apply first.finalUrl document.body = .ok made)
    (nothing : last = [])
    (yadis : ∀ endpoint ∈ Endpoint.preferred made, endpoint.usedYadis = true) :
    Sourced url tried last id (Endpoint.preferred made)
  | firstPage {first : Response} (alone : tried = [⟨Yadis.firstRequest url, .ok first⟩])
    (page : Yadis.isDocument first = false) (unlocated : (Yadis.locationOf first).value = none)
    (nothing : last = [])
    (links : ∀ endpoint ∈ Endpoint.preferred (Endpoint.ofPage first.finalUrl first.body).value,
      endpoint.usedYadis = false) :
    Sourced url tried last id (Endpoint.preferred (Endpoint.ofPage first.finalUrl first.body).value)
  -- The links of the response to the request that is made once more.
  | lastPage {response : Response} (again : last = [⟨.get url, .ok response⟩])
    (links : ∀ endpoint ∈ Endpoint.preferred (Endpoint.ofPage id response.body).value,
      endpoint.usedYadis = false) :
    Sourced url tried last id (Endpoint.preferred (Endpoint.ofPage id response.body).value)

/-- The course of the fetches for a URL: the first one asks for the URL, a second one for the
location that its answer leads on to, and a last one for the URL again, without headers, when the
document that was obtained gives no endpoint. -/
structure Course (url : Text) (asked : List Fetched) (first : Except TransportFault Response)
    (second last : List Fetched) : Prop where
  whole : asked = ⟨Yadis.firstRequest url, first⟩ :: (second ++ last)
  located : second.map Fetched.request = ((Yadis.locatedBy first).map Request.get).toList
  -- Only a document that gives no endpoint makes a third request.
  again : Fruitless (⟨Yadis.firstRequest url, first⟩ :: second) →
    last.map Fetched.request = [.get url]
  otherwise : ¬Fruitless (⟨Yadis.firstRequest url, first⟩ :: second) → last = []

/-- There are at most three fetches. -/
theorem Course.length_le {url : Text} {asked second last : List Fetched}
    {first : Except TransportFault Response} (course : Course url asked first second last) :
    asked.length ≤ 3 := by
  -- The first fetch always takes place, and each of the other two at most once.
  have few : second.length ≤ 1 := by
    have lengths := congrArg List.length course.located
    rw [List.length_map] at lengths
    rw [lengths]
    cases Yadis.locatedBy first with
    | none => exact Nat.zero_le 1
    | some location => exact Nat.le_refl 1
  have once : last.length ≤ 1 := by
    -- The URL is asked once more only where a document has given no endpoint.
    by_cases fruitless : Fruitless (⟨Yadis.firstRequest url, first⟩ :: second)
    · have lengths := congrArg List.length (course.again fruitless)
      rw [List.length_map] at lengths
      exact Nat.le_of_eq lengths
    · rw [course.otherwise fruitless]
      exact Nat.zero_le 1
  rw [course.whole, List.length_cons, List.length_append]
  omega

/-- What a discovery settles on comes from one source. -/
theorem Settles.sourced {url source id : Text} {list : List Endpoint} {last : List Fetched}
    (settles : Settles backend state url source id list)
    (again : Fruitless ((Yadis.discover url).fetches backend state) →
      last = [⟨.get url,
        (backend.fetch (.get url) ((Yadis.discover url).run backend state).state).1⟩])
    (otherwise : ¬Fruitless ((Yadis.discover url).fetches backend state) → last = []) :
    Sourced url ((Yadis.discover url).fetches backend state) last id list := by
  rw [fruitless_iff] at again otherwise
  cases settles with
  | @document finding made _ finds located applied nonempty normal =>
    obtain ⟨first, document, obtained, normalized, body⟩ := finds.obtains located
    -- The document that was found has endpoints, and no other was found.
    have only : last = [] := by
      refine otherwise ?_
      rintro ⟨other, found, _, nothing⟩
      cases (Yadis.discover_eq_ok_iff.mpr finds).symm.trans found
      cases ((documentEndpoints_eq_ok_iff nonempty).mpr ⟨located, applied⟩).symm.trans nothing
      exact nonempty rfl
    rw [normalized, body] at applied
    exact .document obtained applied only (Endpoint.usedYadis_of_apply applied)
  | @page finding _ finds absent normal =>
    obtain ⟨first, kept, agrees⟩ := finds.agrees
    obtain ⟨single, rfl, unlocated⟩ := agrees.page absent
    obtain ⟨later, whole, _⟩ := agrees.started
    -- Without a document the first response stands alone.
    have alone : (Yadis.discover url).fetches backend state =
        [⟨Yadis.firstRequest url, .ok kept⟩] := by
      rw [whole] at single ⊢
      obtain rfl : later = [] := by simpa using single
      rfl
    have only : last = [] := by
      refine otherwise ?_
      rintro ⟨other, found, located, _⟩
      cases (Yadis.discover_eq_ok_iff.mpr finds).symm.trans found
      exact absurd (located.symm.trans absent) Bool.noConfusion
    rw [agrees.normalizedUrl, agrees.body]
    exact .firstPage alone (agrees.document.symm.trans absent) unlocated only
      Endpoint.usedYadis_of_ofPage
  | @refetched finding response after _ finds located nothing answered complete normal =>
    -- Here the discovery was fruitless, so the last fetch is known.
    have once := again ⟨finding, Yadis.discover_eq_ok_iff.mpr finds, located, nothing⟩
    rw [answered] at once
    exact .lastPage once Endpoint.usedYadis_of_ofPage

/-- The discovery of an identifier is that of its normal form. -/
theorem ofUrl_eq {identifier url : Text}
    (normal : (withScheme identifier).bind normalUrl = .ok url) :
    ofUrl identifier = Flow.observe .yadis "discover_uri" (ofNormalUrl url) := by
  -- With the normal form known, just the observed chain is left.
  unfold ofUrl
  rw [normal]
  rfl

/-- An identifier without a normal form is not asked for. -/
theorem fetches_ofUrl_of_error {identifier : Text} {fault : Fault}
    (refused : (withScheme identifier).bind normalUrl = .error fault) :
    (ofUrl identifier).fetches backend state = [] := by
  -- The fault is in front of the chain.
  unfold ofUrl
  rw [refused]
  rfl

/-- The fetches for the normal form of an identifier take their course, and the endpoints come from
one source. -/
theorem ofUrl_course (backend : Backend σ) (state : σ) {identifier url : Text}
    (normal : (withScheme identifier).bind normalUrl = .ok url) :
    ∃ first second last,
      Course url ((ofUrl identifier).fetches backend state) first second last ∧
      ∀ id endpoints, ((ofUrl identifier).run backend state).result = .ok (id, endpoints) →
        Sourced url (⟨Yadis.firstRequest url, first⟩ :: second) last id endpoints := by
  obtain ⟨last, whole, again, otherwise⟩ := fetches_ofNormalUrl backend state url
  have sourced : ∀ id endpoints,
      ((ofUrl identifier).run backend state).result = .ok (id, endpoints) →
        Sourced url ((Yadis.discover url).fetches backend state) last id endpoints := by
    intro id endpoints ran
    rw [ofUrl_eq normal, Flow.run_observe_result] at ran
    obtain ⟨source, settles⟩ := ofNormalUrl_eq_ok_iff.mp ran
    exact settles.sourced again otherwise
  -- The Yadis discovery has one fetch, and one more when a location is named.
  rw [Yadis.fetches_discover] at whole again otherwise sourced
  refine ⟨_, _, last, ⟨?_, ?_, ?_, otherwise⟩, sourced⟩
  · rw [ofUrl_eq normal, Flow.fetches_observe]
    exact whole
  · -- The second request is the one for the location, when there is one.
    cases Yadis.locatedBy (backend.fetch (Yadis.firstRequest url) state).1 with
    | none => rfl
    | some location => rfl
  · intro fruitless
    rw [again fruitless]
    rfl

/-- A URL is discovered by at most three requests, and nothing is asked for an identifier that has
no normal form as a URL. The fetches for a normal form take their course, by which they are
determined, and the endpoints of a discovery that succeeds come from one source, which they tell by
whether they were found by Yadis. -/
theorem ofUrl_fetches (backend : Backend σ) (state : σ) (identifier : Text) :
    ((ofUrl identifier).run backend state).requests =
        ((ofUrl identifier).fetches backend state).map Fetched.request ∧
      ((ofUrl identifier).run backend state).requests.length ≤ 3 ∧
      (∀ fault, (withScheme identifier).bind normalUrl = .error fault →
        ((ofUrl identifier).run backend state).requests = []) ∧
      ∀ url, (withScheme identifier).bind normalUrl = .ok url →
        ∃ first second last,
          Course url ((ofUrl identifier).fetches backend state) first second last ∧
          ∀ id endpoints, ((ofUrl identifier).run backend state).result = .ok (id, endpoints) →
            Sourced url (⟨Yadis.firstRequest url, first⟩ :: second) last id endpoints := by
  -- Both bounds go by whether the identifier has a normal form.
  have asked := Flow.run_requests_eq backend (ofUrl identifier) state
  refine ⟨asked, ?_, ?_, fun url => ofUrl_course backend state⟩
  · rw [asked, List.length_map]
    cases normal : (withScheme identifier).bind normalUrl with
    | error fault =>
      rw [fetches_ofUrl_of_error normal]
      exact Nat.zero_le 3
    | ok url =>
      obtain ⟨_, _, _, course, _⟩ := ofUrl_course backend state normal
      exact course.length_le
  · intro fault refused
    rw [asked, fetches_ofUrl_of_error refused]
    rfl

/-- A page that locates a document which is not read as one is fetched again, and its links give the
endpoint. -/
theorem ofUrl_fetches_thrice :
    ∃ first second last endpoints,
      Course "http://user.example.com/"
        ((ofUrl "user.example.com").fetches .script
          [Yadis.selfLocatingPage, Yadis.locatedDocument, homePage]) first second last ∧
      ((ofUrl "user.example.com").run .script
        [Yadis.selfLocatingPage, Yadis.locatedDocument, homePage]).requests.length = 3 ∧
      endpoints ≠ [] ∧
      Sourced "http://user.example.com/"
        (⟨Yadis.firstRequest "http://user.example.com/", first⟩ :: second) last
        "http://user.example.com/home" endpoints := by
  -- The course of the run is the general one, and the run itself is evaluated.
  have normal : (withScheme "user.example.com").bind normalUrl =
      .ok "http://user.example.com/" := by decide +kernel
  obtain ⟨_, _, _, course⟩ := ofUrl_fetches .script
    [Yadis.selfLocatingPage, Yadis.locatedDocument, homePage] "user.example.com"
  obtain ⟨first, second, last, whole, sourced⟩ := course _ normal
  let endpoint : Endpoint := ⟨some "http://user.example.com/home", "http://op/",
    [OpenidType.signon11], none, false, none⟩
  have ran : ((ofUrl "user.example.com").run .script
      [Yadis.selfLocatingPage, Yadis.locatedDocument, homePage]).result =
        .ok ("http://user.example.com/home", [endpoint]) := by decide +kernel
  exact ⟨first, second, last, [endpoint], whole, by decide +kernel, by simp, sourced _ _ ran⟩

end Discovery

end RelyingParty
