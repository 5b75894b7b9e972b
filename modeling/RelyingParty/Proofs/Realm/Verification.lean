import RelyingParty.Proofs.Filter
import RelyingParty.Proofs.Yadis.Discovery
import RelyingParty.Realm.Verification

/-! A return URL is verified exactly when the document at the realm's own URL declares it. -/

namespace RelyingParty.Realm

/-- Whether the last description of a document declares a return URL, as a pattern without a
wildcard, that admits another. -/
def Vouches (document : Xrds) (returnTo : Text) : Prop :=
  ∃ xrd, document.xrds.getLast? = some xrd ∧
    ∃ service ∈ xrd.services, returnUrlType ∈ service.types ∧
      -- A pattern that is no realm, or that has a wildcard, is passed over.
      ∃ uri ∈ service.uris, ∃ pattern, parse? uri.uri = some pattern ∧
        pattern.wildcard = false ∧ pattern.admits returnTo = true

/-- Some declared return URL matches exactly when one is a pattern without a wildcard that
admits. -/
theorem returnUrlMatches_iff {patterns : List Text} {returnTo : Text} :
    returnUrlMatches patterns returnTo = true ↔
      ∃ declared ∈ patterns, ∃ pattern, parse? declared = some pattern ∧
        pattern.wildcard = false ∧ pattern.admits returnTo = true := by
  simp [returnUrlMatches, Option.any_eq_true]

/-- The URI of a candidate of the type for return URLs. -/
def declaredUrl (candidate : Candidate) : Option Text :=
  if candidate.typeUris.contains returnUrlType then some candidate.uri else none

/-- A URL is declared by the services when one of them has the type and the URL. -/
theorem mem_declaredUrls_iff {yadisUrl declared : Text} {services : List Service} :
    (declared ∈ services.flatMap fun service =>
        (service.candidates yadisUrl).filterMap declaredUrl) ↔
      ∃ service ∈ services, returnUrlType ∈ service.types ∧
        ∃ uri ∈ service.uris, uri.uri = declared := by
  -- The candidates of a service are its URIs, each with all types of the service.
  simp only [List.mem_flatMap, List.mem_filterMap, Service.mem_candidates_iff, declaredUrl,
    Option.ite_none_right_eq_some, List.contains_iff_mem, Option.some.injEq]
  constructor
  · rintro ⟨service, member, candidate, ⟨uri, inside, rfl⟩, typed, same⟩
    exact ⟨service, member, typed, uri, inside, same⟩
  · rintro ⟨service, member, typed, uri, inside, same⟩
    exact ⟨service, member, _, ⟨uri, inside, rfl⟩, typed, same⟩

/-- The return URLs that a document declares match exactly when it vouches for the URL. -/
theorem returnUrls_match_iff {yadisUrl body returnTo : Text} :
    (∃ allowed, (Filter.ofRule returnUrlRule).apply yadisUrl body = .ok allowed ∧
        returnUrlMatches allowed returnTo = true) ↔
      ∃ document, Xrds.parse body = .ok document ∧ Vouches document returnTo := by
  constructor
  · -- The URL that matches comes from a service of the last description.
    rintro ⟨allowed, applied, admitted⟩
    obtain ⟨document, xrd, parsed, own, rfl⟩ :=
      (Filter.apply_ofRule_eq_ok_iff declaredUrl).mp applied
    obtain ⟨declared, member, admits⟩ := returnUrlMatches_iff.mp admitted
    obtain ⟨service, inside, typed, uri, has, rfl⟩ := mem_declaredUrls_iff.mp member
    have kept := mem_sortByPriority.mp inside
    exact ⟨document, parsed, xrd, own, service, kept, typed, uri, has, admits⟩
  · -- The filter keeps the declared URL, wherever the priorities put it.
    rintro ⟨document, parsed, xrd, own, service, inside, typed, uri, has, admits⟩
    refine ⟨_, (Filter.apply_ofRule_eq_ok_iff declaredUrl).mpr
      ⟨document, xrd, parsed, own, rfl⟩, ?_⟩
    refine returnUrlMatches_iff.mpr ⟨uri.uri, mem_declaredUrls_iff.mpr ?_, admits⟩
    exact ⟨service, mem_sortByPriority.mpr inside, typed, uri, has, rfl⟩

variable {σ : Type} {backend : Backend σ} {state : σ}

/-- The return URLs of a relying party are those of the document at its URL, when no redirect led
away from it. -/
theorem allowedReturnUrls_eq_ok_iff {url : Text} {allowed : List Text} :
    ((allowedReturnUrls url).run backend state).result = .ok allowed ↔
      ((Yadis.endpoints (.ofRule returnUrlRule) url).run backend state).result =
        .ok (url, allowed) := by
  unfold allowedReturnUrls
  rw [Flow.run_bind_eq_ok_iff]
  constructor
  · -- A redirect makes a fault of whatever was discovered.
    rintro ⟨⟨finalUrl, returnUrls⟩, discovered, ends⟩
    dsimp only at ends
    by_cases same : finalUrl = url
    · rw [if_pos same] at ends
      cases ends
      rw [discovered, same]
    · rw [if_neg same] at ends
      cases ends
  · -- Without a redirect the list is handed on as it was found.
    intro discovered
    refine ⟨(url, allowed), discovered, ?_⟩
    dsimp only
    rw [if_pos rfl]
    rfl

/-- A judgement is true exactly when some allowed URL matches. -/
theorem judge_eq_ok_true_iff {returnTo : Text} {allowed : List Text} :
    ((judge returnTo allowed).run backend state).result = .ok true ↔
      returnUrlMatches allowed returnTo = true := by
  -- Both branches have a settled result, and they differ in the answer alone.
  unfold judge
  split
  · simp [*, Flow.run, pure]
  · simp [*, Flow.run, pure]

/-- A realm verifies a return URL exactly when one of its declared URLs matches. -/
theorem verify_eq_ok_true_iff {realm : Realm} {returnTo : Text} :
    ((realm.verify returnTo).run backend state).result = .ok true ↔
      ∃ allowed, ((allowedReturnUrls realm.discoveryUrl).run backend state).result = .ok allowed ∧
        returnUrlMatches allowed returnTo = true := by
  unfold verify
  rw [Flow.run_andThen]
  dsimp only
  -- The URLs are judged, or discovery has failed, which is an answer of its own or a fault.
  split
  · rename_i allowed answered
    simp [answered, judge_eq_ok_true_iff]
  · rename_i answered
    simp [answered, Flow.run, pure]
  · rename_i answered
    simp [answered, Flow.fail, Flow.run]

/-- A realm verifies a return URL exactly when the discovery of its own URL finds a document there,
without being redirected, that vouches for the return URL. -/
theorem verify_eq_ok_true_iff_vouches {realm : Realm} {returnTo : Text} :
    ((realm.verify returnTo).run backend state).result = .ok true ↔
      ∃ finding document, Yadis.Finds backend state realm.discoveryUrl finding ∧
        finding.normalizedUrl = realm.discoveryUrl ∧ finding.xrdsUrl.isSome = true ∧
        Xrds.parse finding.body = .ok document ∧ Vouches document returnTo := by
  rw [verify_eq_ok_true_iff]
  simp only [allowedReturnUrls_eq_ok_iff, Yadis.endpoints_eq_ok_iff]
  -- What the filter makes of the document that is found decides the match.
  constructor
  · rintro ⟨allowed, ⟨finding, finds, same, made⟩, admitted⟩
    by_cases located : finding.xrdsUrl.isSome = true
    · rw [if_pos located] at made
      obtain ⟨document, parsed, vouches⟩ := returnUrls_match_iff.mp ⟨allowed, made, admitted⟩
      exact ⟨finding, document, finds, same, located, parsed, vouches⟩
    · -- Without a document nothing is declared, and nothing matches.
      rw [if_neg located] at made
      simp [made, returnUrlMatches] at admitted
  · rintro ⟨finding, document, finds, same, located, parsed, vouches⟩
    obtain ⟨allowed, made, admitted⟩ := returnUrls_match_iff.mpr ⟨document, parsed, vouches⟩
    exact ⟨allowed, ⟨finding, finds, same, by rw [if_pos located]; exact made⟩, admitted⟩

/-- A return URL is verified exactly when the text of the realm is one, the discovery of the realm's
own URL finds a document without being redirected, and the document vouches for the return URL.
When the first response came from another URL it is never verified. -/
theorem verifyText_eq_ok_true_iff (backend : Backend σ) (state : σ) (source returnTo : Text) :
    (((verifyText source returnTo).run backend state).result = .ok true ↔
      ∃ realm finding document, parse? source = some realm ∧
        Yadis.Finds backend state realm.discoveryUrl finding ∧
        finding.normalizedUrl = realm.discoveryUrl ∧ finding.xrdsUrl.isSome = true ∧
        Xrds.parse finding.body = .ok document ∧ Vouches document returnTo) ∧
    ∀ realm first after, parse? source = some realm →
      backend.fetch (Yadis.firstRequest realm.discoveryUrl) state = (.ok first, after) →
      first.finalUrl ≠ realm.discoveryUrl →
        ((verifyText source returnTo).run backend state).result ≠ .ok true := by
  -- A text that is no realm is not verified, and the count around a realm is no part of the result.
  have verifies : ((verifyText source returnTo).run backend state).result = .ok true ↔
      ∃ realm finding document, parse? source = some realm ∧
        Yadis.Finds backend state realm.discoveryUrl finding ∧
        finding.normalizedUrl = realm.discoveryUrl ∧ finding.xrdsUrl.isSome = true ∧
        Xrds.parse finding.body = .ok document ∧ Vouches document returnTo := by
    unfold verifyText
    cases parsed : parse? source with
    | none => simp [Flow.run, pure]
    | some realm =>
      dsimp only
      rw [Flow.run_observe_result, verify_eq_ok_true_iff_vouches]
      simp
  -- What is found names the URL of the first response, which would have to be the realm's own.
  refine ⟨verifies, fun realm first after parsed answered elsewhere verified => ?_⟩
  obtain ⟨realm', finding, document, parsed', finds, same, _⟩ := verifies.mp verified
  rw [parsed] at parsed'
  cases parsed'
  exact elsewhere ((finds.normalizedUrl_eq answered).symm.trans same)

/-- A document whose only service declares a return URL. -/
def declaringPage : Text :=
  "<R:XRDS xmlns:R='xri://$xrds' xmlns='xri://$xrd*($v*2.0)'><XRD><Service>".toList
    ++ "<Type>http://specs.openid.net/auth/2.0/return_to</Type><URI>http://a.com/b</URI>"
    ++ "</Service></XRD></R:XRDS>"

/-- The response with that document from a URL. -/
def declaringResponse (finalUrl : Text) : Response :=
  ⟨200, [("content-type", "application/xrds+xml")], declaringPage, finalUrl⟩

/-- A backend that gives that response to every request. -/
def declaringBackend (finalUrl : Text) : Backend Unit where
  fetch _ _ := (.ok (declaringResponse finalUrl), ())
  read _ _ := (.ok none, ())
  write _ _ _ := (.ok (), ())
  erase _ _ := (.ok (), ())

/-- The declared URL admits one below it, but only where no redirect led to the document. -/
theorem verifyText_declaring :
    let ran (url : Text) :=
      (verifyText "http://*/" "http://a.com/b/c").run (declaringBackend url) ()
    (ran "http://www./").result = .ok true ∧ (ran "http://a.com/").result ≠ .ok true := by
  have realm : parse? "http://*/" = some (everyHost "http://*/" .http) := rfl
  have read : (Xrds.parse (declaringResponse "http://www./").body).toOption =
      some ⟨[⟨none, [⟨none, [returnUrlType], [⟨none, "http://a.com/b"⟩], [], []⟩]⟩]⟩ := by
    decide +kernel
  -- Both backends answer with the same document, at different URLs.
  have typed : Yadis.isDocument (declaringResponse "http://www./") = true := by decide +kernel
  have finds := @Yadis.Finds.direct _ (declaringBackend "http://www./") ()
    (everyHost "http://*/" .http).discoveryUrl (declaringResponse "http://www./") () rfl rfl typed
  cases parsed : Xrds.parse (declaringResponse "http://www./").body with
  | error fault =>
    rw [parsed] at read
    cases read
  | ok document =>
    rw [parsed] at read
    refine ⟨(verifyText_eq_ok_true_iff (declaringBackend "http://www./") () _ _).1.mpr ?_, ?_⟩
    · refine ⟨_, _, document, realm, finds, by decide, rfl, ?_, ?_⟩
      · dsimp only
        exact parsed
      · cases read
        refine ⟨_, rfl, _, .head _, .head _, _, .head _,
          ⟨"http://a.com/b", .http, false, "a.com", 80, "/b"⟩, ?_, rfl, ?_⟩
        · decide +kernel
        · decide +kernel
    · -- The first response comes from another URL than the realm asked for.
      exact (verifyText_eq_ok_true_iff (declaringBackend "http://a.com/") () _ _).2 _
        (declaringResponse "http://a.com/") () realm rfl (by decide)

end RelyingParty.Realm
