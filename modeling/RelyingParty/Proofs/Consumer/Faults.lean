import RelyingParty.Consumer
import RelyingParty.Proofs.Discovery.Fetches
import RelyingParty.Proofs.Flow.Accountable

/-! Which faults discovery and verification end with, and which of them tell a status. -/

namespace RelyingParty

namespace Fault

/-- Whether a URL could not be discovered. -/
def IsDiscovery (fault : Fault) : Prop := ∃ url cause, fault = .discovery url cause

/-- Whether a text is no URL. -/
def IsMalformedUri (fault : Fault) : Prop := ∃ uri cause, fault = .malformedUri uri cause

/-- Whether an XRDS document is of no use. -/
def IsXrds (fault : Fault) : Prop := ∃ cause, fault = .xrds cause

/-- Whether the discovery of a realm was redirected. -/
def IsRealmRedirected (fault : Fault) : Prop :=
  ∃ relyingPartyUrl finalUrl, fault = .realmRedirected relyingPartyUrl finalUrl

end Fault

variable {α : Type} {allowed : Fault → Prop}

namespace Yadis

/-- The report of a scan is accountable. -/
theorem accountable_reportScan (purpose : Event.ScanPurpose) (scanned : Html.Scanned α) :
    (reportScan purpose scanned).Accountable allowed none := by
  -- Malformed markup ends a scan with what it has found, and is no fault.
  unfold reportScan
  split
  · rfl
  · rfl

/-- A fetch of a complete response tells the status of any other. -/
theorem accountable_fetchComplete (url : Text) (request : Request) {stopped : Option Nat} :
    (fetchComplete url request).Accountable Fault.IsDiscovery stopped := by
  exact Flow.accountable_request_complete (fun fault => ⟨⟨url, _, rfl⟩, rfl⟩)
    (fun response => ⟨⟨url, _, rfl⟩, rfl⟩) Flow.accountable_pure

/-- The fetch of a document is accountable. -/
theorem accountable_fetchDocument (url location : Text) (first : Response) :
    (fetchDocument url location first).Accountable Fault.IsDiscovery none := by
  -- A document of the wrong kind is a fault of discovery without a status.
  refine (accountable_fetchComplete location (.get location)).bind fun response => ?_
  dsimp only
  split
  · rfl
  · exact ⟨⟨response.finalUrl, _, rfl⟩, rfl⟩

/-- A discovery is accountable. -/
theorem accountable_discover (url : Text) :
    (discover url).Accountable Fault.IsDiscovery none := by
  -- The first fetch may settle it; otherwise a scan, which never fails, comes before the second.
  refine (accountable_fetchComplete url _).bind fun response => ?_
  dsimp only
  split
  · rfl
  · refine (accountable_reportScan .location _).bind fun location => ?_
    cases location with
    | none => rfl
    | some location => exact accountable_fetchDocument url location response

/-- A discovery with a filter is accountable, also when the filter fails. -/
theorem accountable_filtered {ε : Type} (filter : Filter ε) (url : Text) :
    (filtered filter url).Accountable Fault.IsDiscovery none := by
  refine (accountable_discover url).bind fun finding => ?_
  split
  · split
    · rfl
    · -- Whatever is wrong with the document is told as a fault of the discovery.
      rename_i fault _
      cases fault with
      | document fault => exact ⟨⟨_, _, rfl⟩, rfl⟩
      | filter fault => exact ⟨⟨_, _, rfl⟩, rfl⟩
  · rfl

/-- The discovery of endpoints is accountable. -/
theorem accountable_endpoints {ε : Type} (filter : Filter ε) (url : Text) :
    (endpoints filter url).Accountable Fault.IsDiscovery none :=
  (accountable_filtered filter url).observe .yadis "get_service_endpoints"

end Yadis

namespace Realm

/-- The declared URLs are discovered with one more fault, that of a redirected realm. -/
theorem accountable_allowedReturnUrls (url : Text) :
    (allowedReturnUrls url).Accountable (fun fault => fault.IsRealmRedirected ∨ fault.IsDiscovery)
      none := by
  -- The discovery keeps to its own faults, and the comparison behind it adds the other one.
  refine ((Yadis.accountable_endpoints _ url).mono fun _ => .inr).bind fun found => ?_
  dsimp only
  split
  · rfl
  · exact ⟨.inl ⟨url, found.1, rfl⟩, rfl⟩

/-- A judgement is accountable. -/
theorem accountable_judge (returnTo : Text) (allowedUrls : List Text) :
    (judge returnTo allowedUrls).Accountable allowed none := by
  -- Neither answer is a fault.
  unfold judge
  split
  · rfl
  · rfl

/-- The verification against a realm fails with faults of discovery only; that the realm was
redirected is an answer. -/
theorem accountable_verify (realm : Realm) (returnTo : Text) :
    (realm.verify returnTo).Accountable Fault.IsDiscovery none := by
  -- Of the two faults of the discovery one is answered, and the other one is handed on.
  refine (accountable_allowedReturnUrls realm.discoveryUrl).andThen (accountable_judge returnTo) ?_
  rintro fault (⟨relyingPartyUrl, finalUrl, rfl⟩ | ⟨url, cause, rfl⟩)
  · rfl
  · exact ⟨⟨url, cause, rfl⟩, rfl⟩

/-- The verification against the text of a realm is accountable. -/
theorem accountable_verifyText (source returnTo : Text) :
    (verifyText source returnTo).Accountable Fault.IsDiscovery none := by
  -- A text that is no realm is answered by false.
  unfold verifyText
  split
  · rfl
  · exact (accountable_verify _ returnTo).observe .realmVerification "verify_return_to"

end Realm

/-- What has no normal form as a URL is a malformed URI. -/
theorem isMalformedUri_of_normalUrl {url : Text} {fault : Fault}
    (refused : normalUrl url = .error fault) : fault.IsMalformedUri ∧ fault.status? = none := by
  -- The fault of the normalization is wrapped, and it tells of no response.
  unfold normalUrl at refused
  cases normal : Uri.normalizeWithoutFragment url with
  | ok text =>
    rw [normal] at refused
    cases refused
  | error cause =>
    rw [normal] at refused
    cases refused
    exact ⟨⟨url, cause, rfl⟩, rfl⟩

/-- The query of a resolver is accountable; a document without an answer is a fault of its own. -/
theorem Xri.Resolver.accountable_query (resolver : Resolver) (xri : Text) :
    (resolver.query xri).Accountable (fun fault => fault.IsXrds ∨ fault.IsDiscovery) none := by
  -- What fails after the fetch is the reading of the document.
  refine Flow.accountable_request_complete (fun fault => ⟨.inr ⟨_, _, rfl⟩, rfl⟩)
    (fun response => ⟨.inr ⟨_, _, rfl⟩, rfl⟩) fun response => ?_
  refine Flow.accountable_done fun fault failed => ?_
  cases answer : answerOf xri response.body with
  | ok found =>
    rw [answer] at failed
    cases failed
  | error cause =>
    rw [answer] at failed
    cases failed
    exact ⟨.inl ⟨cause, rfl⟩, rfl⟩

namespace Discovery

/-- Whether a fault is one that the discovery of a URL may end with. -/
def IsUrlFault (fault : Fault) : Prop := fault.IsMalformedUri ∨ fault.IsDiscovery

/-- Whether a fault is one that the resolution of an XRI may end with. -/
def IsXriFault (fault : Fault) : Prop := fault.IsXrds ∨ fault.IsDiscovery

/-- A normal form is accountable. -/
theorem accountable_normalUrl (url : Text) :
    (Flow.done (normalUrl url)).Accountable IsUrlFault none := by
  -- It is done without a request, so its fault is the one of the normalization.
  refine Flow.accountable_done fun fault refused => ?_
  obtain ⟨malformed, untold⟩ := isMalformedUri_of_normalUrl refused
  exact ⟨.inl malformed, untold⟩

/-- To settle on endpoints is accountable when the claimed identifier is. -/
theorem accountable_settle (source : EndpointSource) {claimed : Except Fault Text}
    (endpoints : List Endpoint) (named : (Flow.done claimed).Accountable allowed none) :
    (settle source claimed endpoints).Accountable allowed none := by
  -- The report in front asks for nothing and does not fail.
  show (Flow.done claimed >>= _).Accountable allowed none
  exact named.bind fun _ => rfl

/-- To take the endpoints of a page is accountable when the claimed identifier is. -/
theorem accountable_ofPage (url page : Text) {claimed : Except Fault Text}
    (named : (Flow.done claimed).Accountable allowed none) :
    (ofPage url page claimed).Accountable allowed none :=
  (Yadis.accountable_reportScan .links _).bind fun endpoints =>
    accountable_settle .html endpoints named

/-- To fetch a URL again is accountable. -/
theorem accountable_refetched (url : Text) : (refetched url).Accountable IsUrlFault none := by
  -- The fetch and the name of the page are the two parts that may fail.
  refine ((Yadis.accountable_fetchComplete url _).mono fun _ => .inr).bind fun response => ?_
  exact (accountable_normalUrl _).bind fun claimed => accountable_ofPage claimed response.body rfl

/-- A document that is of no use to a filter is no fraud. -/
theorem isFraud_of_apply {ε : Type} {filter : Filter ε} {yadisUrl text : Text} {cause : XrdsFault}
    (failed : filter.apply yadisUrl text = .error (.document cause)) : cause.isFraud = false := by
  unfold Filter.apply at failed
  cases parsed : Xrds.parse text with
  | error fault =>
    rw [parsed] at failed
    cases failed
    exact Xrds.isFraud_of_parse parsed
  | ok document =>
    cases own : document.xrds.getLast? with
    | none =>
      -- A document without a description is refused as such.
      simp only [parsed, Except.bind, Xrds.services, own] at failed
      cases failed
      rfl
    | some xrd =>
      simp only [parsed, Except.bind, Xrds.services, own, mapError_ok] at failed
      -- The filter of a read document fails in its own way.
      cases made : filter.endpointsByPriority yadisUrl xrd.services with
      | ok endpoints => simp [made, bind, Except.bind] at failed
      | error fault => simp [made, bind, Except.bind] at failed

/-- The endpoints of a document fail only with a fault of the filter. A document that cannot be read
is no fraud, so that it has no endpoints. -/
theorem accountable_documentEndpoints (finding : Yadis.Finding) :
    (Flow.done (documentEndpoints finding)).Accountable IsUrlFault none := by
  -- Only a fraud is handed on as a fault of the document, and that never comes here.
  refine Flow.accountable_done fun fault failed => ?_
  unfold documentEndpoints at failed
  split at failed
  · split at failed
    · cases failed
    · rename_i cause applied
      rw [isFraud_of_apply applied] at failed
      cases failed
    · cases failed
      exact ⟨.inr ⟨_, _, rfl⟩, rfl⟩
  · cases failed

/-- The discovery of a normalized URL is accountable. -/
theorem accountable_ofNormalUrl (url : Text) : (ofNormalUrl url).Accountable IsUrlFault none := by
  -- The discovery comes first, and then each source of endpoints on its own.
  refine ((Yadis.accountable_discover url).mono fun _ => .inr).bind fun finding => ?_
  refine (accountable_documentEndpoints finding).bind fun endpoints => ?_
  have named := accountable_normalUrl finding.normalizedUrl
  split
  · exact accountable_settle .yadis endpoints named
  · split
    · exact accountable_refetched url
    · exact accountable_ofPage _ _ named

/-- What is given a scheme is refused for its scheme only. -/
theorem isDiscovery_of_withScheme {identifier : Text} {fault : Fault}
    (refused : withScheme identifier = .error fault) :
    fault.IsDiscovery ∧ fault.status? = none := by
  -- Of the four ends one is a fault.
  unfold withScheme at refused
  split at refused
  · split at refused
    · split at refused
      · cases refused
      · cases refused
        exact ⟨⟨identifier, .scheme, rfl⟩, rfl⟩
    · cases refused
  · cases refused

/-- The discovery of a URL is accountable; an identifier without a normal form is refused before. -/
theorem accountable_ofUrl (identifier : Text) : (ofUrl identifier).Accountable IsUrlFault none := by
  -- What is refused in front of the chain is a matter of the scheme or of the normal form.
  refine Flow.Accountable.bind (Flow.accountable_done fun fault refused => ?_) fun url =>
    (accountable_ofNormalUrl url).observe .yadis "discover_uri"
  cases schemed : withScheme identifier with
  | ok url =>
    rw [schemed] at refused
    obtain ⟨malformed, untold⟩ := isMalformedUri_of_normalUrl refused
    exact ⟨.inl malformed, untold⟩
  | error other =>
    rw [schemed] at refused
    cases refused
    obtain ⟨unfit, untold⟩ := isDiscovery_of_withScheme schemed
    exact ⟨.inr unfit, untold⟩

/-- The resolution of a name is accountable. -/
theorem accountable_ofIname (resolver : Xri.Resolver) (iname : Text) :
    (ofIname resolver iname).Accountable IsXriFault none := by
  refine (resolver.accountable_query iname).bind fun answer => ?_
  obtain ⟨canonicalId, services⟩ := answer
  cases canonicalId with
  -- A name without a CanonicalID is refused as a fault of its document.
  | none => exact ⟨.inl ⟨_, rfl⟩, rfl⟩
  | some canonicalId =>
    dsimp only
    split
    · exact ⟨.inr ⟨iname, _, rfl⟩, rfl⟩
    · exact accountable_settle .xri _ rfl

/-- The discovery of an XRI is accountable. -/
theorem accountable_ofXri (resolver : Xri.Resolver) (xri : Text) :
    (ofXri resolver xri).Accountable IsXriFault none :=
  (accountable_ofIname resolver _).observe .xri "discover_xri"

end Discovery

/-- Verification and the discovery of endpoints with any filter fail with faults of discovery only,
the discovery of a URL with these and malformed URIs, that of an XRI with these and the faults of
its document. A fault of discovery has a status exactly when a response with that status, which is
neither 200 nor 206, stopped the fetches. -/
theorem faults_by_operation :
    (∀ realm returnTo, (Realm.verifyText realm returnTo).FailsAs Fault.IsDiscovery) ∧
    (∀ (ε : Type) (filter : Filter ε) (url : Text),
      (Yadis.endpoints filter url).FailsAs Fault.IsDiscovery) ∧
    (∀ identifier, (Discovery.ofUrl identifier).FailsAs fun fault =>
      fault.IsMalformedUri ∨ fault.IsDiscovery) ∧
    ∀ resolver xri, (Discovery.ofXri resolver xri).FailsAs fun fault =>
      fault.IsXrds ∨ fault.IsDiscovery :=
  ⟨fun realm returnTo => (Realm.accountable_verifyText realm returnTo).failsAs,
    fun _ filter url => (Yadis.accountable_endpoints filter url).failsAs,
    fun identifier => (Discovery.accountable_ofUrl identifier).failsAs,
    fun resolver xri => (Discovery.accountable_ofXri resolver xri).failsAs⟩

/-- The response of a page that is not there. -/
def missingPage : Response := ⟨404, [], [], "http://a.com/"⟩

/-- The discovery of a page that is not there fails with its status. -/
theorem faults_by_operation_missing_page :
    ∃ url cause, ((Discovery.ofUrl "a.com").run (.always missingPage) ()).result =
        .error (.discovery url cause) ∧ cause.status? = some 404 := by
  have normal : (Discovery.withScheme "a.com").bind normalUrl = .ok "http://a.com/" := by
    decide +kernel
  -- The first fetch is the last one.
  have stopped : StoppedAt ((Discovery.ofUrl "a.com").fetches (.always missingPage) ()) 404 := by
    rw [Discovery.ofUrl_eq normal, Flow.fetches_observe]
    exact ⟨Yadis.firstRequest "http://a.com/", missingPage, rfl, rfl, by decide, by decide⟩
  exact ((faults_by_operation.2.2.1 "a.com" Unit (.always missingPage) ()).2 404).mpr stopped

end RelyingParty
