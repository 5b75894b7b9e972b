import RelyingParty.Consumer
import RelyingParty.Proofs.Flow.Confined
import RelyingParty.Proofs.Session.Manager

/-! What the flows of a consumer may ask and tell: no request limits its redirects, and a chain is
counted where it is observed, and nowhere else. -/

namespace RelyingParty

/-- Whether a request leaves the limit of its redirects to whoever answers it. -/
def Request.IsUnlimited (request : Request) : Prop := request.redirectLimit = none

/-- Whether a report counts no chain. -/
def Event.IsUncounted (event : Event) : Prop := ∀ kind outcome, event ≠ .counted kind outcome

/-- Whether a report tells that malformed markup ended a scan. -/
def Event.IsScan (event : Event) : Prop := ∃ purpose, event = .scanStopped purpose

/-- Whether a flow limits no redirects and reports nothing but scans. -/
abbrev Flow.Scanning {α : Type} (flow : Flow α) : Prop :=
  flow.Confined Request.IsUnlimited Event.IsScan

/-- Whether a flow limits no redirects and counts no chain. -/
abbrev Flow.Plain {α : Type} (flow : Flow α) : Prop :=
  flow.Confined Request.IsUnlimited Event.IsUncounted

/-- Whether a flow limits no redirects. -/
abbrev Flow.Unlimited {α : Type} (flow : Flow α) : Prop :=
  flow.Confined Request.IsUnlimited fun _ => True

variable {α : Type}

/-- A flow that reports nothing but scans counts no chain. -/
theorem Flow.Confined.plain {flow : Flow α} (scanning : flow.Scanning) : flow.Plain := by
  -- A scan is no report of a chain.
  refine scanning.mono (fun _ unlimited => unlimited) ?_
  rintro _ ⟨purpose, rfl⟩ kind outcome
  exact Event.noConfusion

/-- A flow that counts no chain either limits no redirects. -/
theorem Flow.Confined.unlimited {flow : Flow α} (plain : flow.Plain) : flow.Unlimited :=
  plain.mono (fun _ unlimited => unlimited) fun _ _ => trivial

/-- A GET request limits no redirects. -/
theorem Request.isUnlimited_get (url : Text) : (get url).IsUnlimited := rfl

/-- A GET request with a header limits no redirects. -/
theorem Request.isUnlimited_withHeader (url name value : Text) :
    ((get url).withHeader name value).IsUnlimited := rfl

namespace Yadis

/-- The report of a scan is one. -/
theorem scanning_reportScan (purpose : Event.ScanPurpose) (scanned : Html.Scanned α) :
    (reportScan purpose scanned).Scanning := by
  -- A scan that was not stopped is not even reported.
  unfold reportScan
  split
  · exact ⟨⟨purpose, rfl⟩, trivial⟩
  · trivial

/-- A fetch reports nothing, and limits no redirects when its request limits none. -/
theorem scanning_fetchComplete (url : Text) (request : Request)
    (unlimited : request.IsUnlimited) : (fetchComplete url request).Scanning := by
  -- The status of the response decides between two ends without any report.
  refine (Flow.confined_request unlimited).bind fun response => ?_
  split
  · trivial
  · trivial

/-- The fetch of a document reports nothing. -/
theorem scanning_fetchDocument (url location : Text) (first : Response) :
    (fetchDocument url location first).Scanning := by
  -- What follows the fetch is a value or a fault.
  refine (scanning_fetchComplete location _ (Request.isUnlimited_get location)).bind
    fun response => ?_
  dsimp only
  split
  · trivial
  · trivial

/-- The discovery of a document reports nothing but its scan. -/
theorem scanning_discover (url : Text) : (discover url).Scanning := by
  -- The first response is the document, or its location is scanned for.
  refine (scanning_fetchComplete url _ (Request.isUnlimited_withHeader ..)).bind
    fun response => ?_
  dsimp only
  split
  · trivial
  · refine (scanning_reportScan .location _).bind fun location => ?_
    cases location with
    | none => trivial
    | some location => exact scanning_fetchDocument url location response

/-- A discovery with a filter is plain as long as it is not observed. -/
theorem plain_filtered {ε : Type} (filter : Filter ε) (url : Text) :
    (filtered filter url).Plain := by
  -- The filter asks and tells nothing, whatever it makes of the document.
  refine (scanning_discover url).plain.bind fun finding => ?_
  split
  · split
    · trivial
    · trivial
  · trivial

/-- An observed discovery with a filter limits no redirects. -/
theorem unlimited_endpoints {ε : Type} (filter : Filter ε) (url : Text) :
    (endpoints filter url).Unlimited :=
  (plain_filtered filter url).observe .yadis "get_service_endpoints"

end Yadis

/-- The query of a resolver reports nothing. -/
theorem Xri.Resolver.scanning_query (resolver : Resolver) (xri : Text) :
    (resolver.query xri).Scanning := by
  -- One request, and then a value or a fault.
  refine (Flow.confined_request (Request.isUnlimited_get _)).bind fun response => ?_
  split
  · trivial
  · trivial

namespace Discovery

/-- To settle on endpoints is plain. -/
theorem plain_settle (source : EndpointSource) (claimed : Except Fault Text)
    (endpoints : List Endpoint) : (settle source claimed endpoints).Plain := by
  -- The report of the endpoints is no report of a chain.
  refine Flow.Confined.bind ⟨fun _ _ => Event.noConfusion, trivial⟩ fun _ => ?_
  exact (Flow.confined_done claimed).bind fun _ => trivial

/-- To take the endpoints of a page is plain. -/
theorem plain_ofPage (url page : Text) (claimed : Except Fault Text) :
    (ofPage url page claimed).Plain :=
  (Yadis.scanning_reportScan .links _).plain.bind fun endpoints =>
    plain_settle .html claimed endpoints

/-- To fetch a URL again is plain. -/
theorem plain_refetched (url : Text) : (refetched url).Plain := by
  -- The page is fetched without a limit, and what is found on it is settled on.
  refine (Yadis.scanning_fetchComplete url _ (Request.isUnlimited_get url)).plain.bind
    fun response => ?_
  exact (Flow.confined_done _).bind fun claimed => plain_ofPage claimed response.body (.ok claimed)

/-- The discovery of a normalized URL is plain as long as it is not observed. -/
theorem plain_ofNormalUrl (url : Text) : (ofNormalUrl url).Plain := by
  -- Each of the three sources of endpoints is plain.
  refine (Yadis.scanning_discover url).plain.bind fun finding => ?_
  refine (Flow.confined_done _).bind fun endpoints => ?_
  split
  · exact plain_settle ..
  · split
    · exact plain_refetched url
    · exact plain_ofPage ..

/-- The resolution of a name is plain as long as it is not observed. -/
theorem plain_ofIname (resolver : Xri.Resolver) (iname : Text) :
    (ofIname resolver iname).Plain := by
  -- A name without a CanonicalID ends the resolution, and so does one without services.
  refine (resolver.scanning_query iname).plain.bind fun answer => ?_
  obtain ⟨canonicalId, services⟩ := answer
  cases canonicalId with
  | none => trivial
  | some canonicalId =>
    dsimp only
    split
    · trivial
    · exact plain_settle ..

/-- The discovery of an identifier limits no redirects. -/
theorem unlimited_discover (resolver : Xri.Resolver) (identifier : Text) :
    (discover resolver identifier).Unlimited := by
  -- Either chain is plain inside, and to observe it asks for nothing more.
  unfold discover
  split
  · exact (plain_ofIname resolver _).observe .xri "discover_xri"
  · exact (Flow.confined_done _).bind fun url =>
      (plain_ofNormalUrl url).observe .yadis "discover_uri"

end Discovery

namespace Realm

/-- A judgement is plain. -/
theorem plain_judge (returnTo : Text) (allowed : List Text) : (judge returnTo allowed).Plain := by
  -- A refusal is reported, but not as a chain.
  unfold judge
  split
  · trivial
  · exact ⟨fun _ _ => Event.noConfusion, trivial⟩

/-- The verification against a realm limits no redirects. -/
theorem unlimited_verify (realm : Realm) (returnTo : Text) : (realm.verify returnTo).Unlimited := by
  refine Flow.Confined.andThen ?_ fun result => ?_
  · -- The URL behind redirects is compared without asking again.
    refine (Yadis.unlimited_endpoints _ _).bind fun found => ?_
    dsimp only
    split
    · trivial
    · trivial
  · split
    · exact (plain_judge ..).unlimited
    · exact ⟨trivial, trivial⟩
    · trivial

/-- The verification against the text of a realm limits no redirects. -/
theorem unlimited_verifyText (source returnTo : Text) : (verifyText source returnTo).Unlimited := by
  -- A text that is no realm ends the verification before any request.
  unfold verifyText
  split
  · trivial
  · exact (unlimited_verify _ returnTo).observe .realmVerification "verify_return_to"

end Realm

namespace Manager

variable {ε : Type} (codec : EndpointCodec ε) (manager : Manager)

/-- To read the stored cursor is plain. -/
theorem plain_cursor (force : Bool) : (manager.cursor codec force).Plain := by
  -- A value that cannot be decoded is reported as such, which counts no chain.
  refine Flow.Confined.bind ?_ fun cursor => trivial
  refine (Flow.confined_stored manager.key).bind fun stored => ?_
  cases stored with
  | none => trivial
  | some value =>
    dsimp only
    split
    · trivial
    · exact ⟨fun _ _ => Event.noConfusion, trivial⟩
    · exact ⟨fun _ _ => Event.noConfusion, trivial⟩

/-- To store a cursor is plain. -/
theorem plain_save (cursor : Cursor ε) : (manager.save codec cursor).Plain :=
  Flow.confined_store manager.key _

/-- To make a cursor is plain. -/
theorem plain_create (yadisUrl : Text) (services : List ε) :
    (manager.create codec yadisUrl services).Plain := by
  -- A cursor is saved unless there is one already.
  refine (manager.plain_cursor codec false).bind fun cursor => ?_
  split
  · trivial
  · split
    · trivial
    · exact (manager.plain_save codec _).bind fun _ => trivial

/-- To remove a cursor is plain. -/
theorem plain_destroy (force : Bool) : (manager.destroy codec force).Plain := by
  -- The cursor is read, and perhaps forgotten.
  refine (manager.plain_cursor codec force).bind fun cursor => ?_
  split
  · exact Flow.confined_forget _
  · trivial

/-- To look for a usable cursor is plain. -/
theorem plain_usable : (manager.usable codec).Plain := by
  -- A cursor that is used up is removed, and one that is not is handed on.
  refine (manager.plain_cursor codec false).bind fun cursor => ?_
  cases cursor with
  | none => trivial
  | some cursor =>
    dsimp only
    split
    · exact (manager.plain_destroy codec false).bind fun _ => trivial
    · trivial

/-- To hand out an endpoint is plain. -/
theorem plain_handOut (cursor : Option (Cursor ε)) : (manager.handOut codec cursor).Plain := by
  -- To save the advanced cursor is all that is done.
  cases cursor with
  | none => trivial
  | some cursor => exact (manager.plain_save codec cursor.advance).bind fun _ => trivial

/-- To make a cursor and hand out its first endpoint is plain. -/
theorem plain_openFound (found : Text × List ε) : (manager.openFound codec found).Plain :=
  (manager.plain_create codec found.1 found.2).bind fun cursor => manager.plain_handOut codec cursor

/-- A manager limits no redirects when its discovery limits none. -/
theorem unlimited_next {discover : Text → Flow (Text × List ε)}
    (unlimited : (discover manager.url).Unlimited) : (manager.next codec discover).Unlimited := by
  -- The discovery is the one part that could fetch anything.
  rw [next_eq]
  refine (manager.plain_usable codec).unlimited.bind fun usable => ?_
  cases usable with
  | none => exact unlimited.bind fun found => (manager.plain_openFound codec found).unlimited
  | some cursor => exact (manager.plain_handOut codec (some cursor)).unlimited

end Manager

namespace Consumer

/-- A call of a consumer that may fetch. -/
inductive Call where
  | discover (identifier : Text)
  | next (identifier : Text)
  | verify (realm returnUrl : Text)
  deriving DecidableEq, Repr

/-- The flow of a call, whose result goes to its caller. -/
def perform (consumer : Consumer) : Call → Flow Unit
  | .discover identifier => (consumer.discover identifier).dismiss
  | .next identifier => (consumer.next identifier).dismiss
  | .verify realm returnUrl => (consumer.verify realm returnUrl).dismiss

/-- No call of a consumer limits its redirects. -/
theorem unlimited_perform (consumer : Consumer) (call : Call) :
    (consumer.perform call).Unlimited := by
  cases call with
  | discover identifier => exact (Discovery.unlimited_discover _ identifier).dismiss
  | next identifier =>
    -- The manager discovers as the consumer does.
    exact ((consumer.manager identifier).unlimited_next .openid
      (Discovery.unlimited_discover _ identifier)).dismiss
  | verify realm returnUrl => exact (Realm.unlimited_verifyText realm returnUrl).dismiss

end Consumer

end RelyingParty
