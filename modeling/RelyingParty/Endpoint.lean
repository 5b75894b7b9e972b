import RelyingParty.Filter
import RelyingParty.Html.Links

/-! OpenID endpoints: how they are found in services and in pages, and which are tried first. -/

namespace RelyingParty

/-- The types of OpenID services. -/
def OpenidType.server : Text := "http://specs.openid.net/auth/2.0/server"

/-- The type of services that sign on with OpenID 2.0. -/
def OpenidType.signon : Text := "http://specs.openid.net/auth/2.0/signon"

/-- The type of services that sign on with OpenID 1.1. -/
def OpenidType.signon11 : Text := "http://openid.net/signon/1.1"

/-- The type of services that sign on with OpenID 1.0. -/
def OpenidType.signon10 : Text := "http://openid.net/signon/1.0"

/-- The types of OpenID services, the most preferred first. -/
def OpenidType.all : List Text :=
  [OpenidType.server, OpenidType.signon, OpenidType.signon11, OpenidType.signon10]

/-- Where a user can be signed on, and the identifiers that go with it. -/
structure Endpoint where
  claimedId : Option Text
  serverUrl : Text
  typeUris : List Text
  localId : Option Text
  usedYadis : Bool
  displayId : Option Text
  deriving DecidableEq, Repr

/-- The fault of a tag whose value is another than the one found before. -/
def ambiguous (tag : Text) : FilterFault :=
  ⟨"More than one ".toList ++ tag ++ " tag found in one service element"⟩

/-- Takes a value with its tag; only the value that is known already may be found again. -/
def takeValue (known : Option Text) (tagged : Text × Text) : Except FilterFault (Option Text) :=
  match known with
  | none => .ok (some tagged.2)
  | some value => if value = tagged.2 then .ok known else .error (ambiguous tagged.1)

/-- The values that may be the identifier of the user, with their tags: delegates with version 1
types, and local identifiers with version 2. -/
def identifierValues (service : Service) (types : List Text) : List (Text × Text) :=
  (if types.contains OpenidType.signon11 || types.contains OpenidType.signon10 then
    service.delegates.map ("openid:Delegate".toList, ·)
  else []) ++
  if types.contains OpenidType.signon then service.localIds.map ("xrd:LocalID".toList, ·) else []

/-- The identifier that the provider knows the user by. -/
def localIdentifier (service : Service) (types : List Text) : Except FilterFault (Option Text) :=
  (identifierValues service types).foldlM takeValue none

namespace Endpoint

/-- An endpoint without an identifier to display. -/
def make (claimedId : Option Text) (serverUrl : Text) (typeUris : List Text)
    (localId : Option Text) (usedYadis : Bool) : Endpoint :=
  ⟨claimedId, serverUrl, typeUris, localId, usedYadis, none⟩

/-- The endpoint of a candidate with a URI and an OpenID type. A provider's own service claims no
identifier; any other claims the URL that was discovered. -/
def ofCandidate : Rule Endpoint := fun candidate =>
  let types := candidate.matchTypes OpenidType.all
  if types = [] ∨ candidate.uri = [] then .ok none
  -- A provider's own service leaves the choice of an identifier to the user.
  else if types.contains OpenidType.server then
    .ok (some (make none candidate.uri types none true))
  else do
    let localId ← localIdentifier candidate.service types
    return some (make (some candidate.yadisUrl) candidate.uri types localId true)

/-- An endpoint is rebuilt from a candidate of an OpenID service. -/
def prototype : Prototype Endpoint := ⟨ofCandidate⟩

/-- The filter for OpenID endpoints. -/
def openidFilter : Filter Endpoint := .ofRule ofCandidate

/-- The endpoint whose provider and local identifier are given by two relations of links. -/
def ofLinks? (uri type : Text) (provider localId : Text) (links : List Html.Attributes) :
    Option Endpoint :=
  (Html.firstTarget? links provider).map fun serverUrl =>
    make (some uri) serverUrl [type] (Html.firstTarget? links localId) false

/-- The endpoints that the links of a page name: one for version 2, one for version 1. -/
def allOfLinks (uri : Text) (links : List Html.Attributes) : List Endpoint :=
  (ofLinks? uri OpenidType.signon "openid2.provider" "openid2.local_id" links).toList ++
    (ofLinks? uri OpenidType.signon11 "openid.server" "openid.delegate" links).toList

/-- The endpoints of a page, and whether malformed markup ended its scan. -/
def ofPage (uri page : Text) : Html.Scanned (List Endpoint) :=
  let scanned := Html.links page
  ⟨allOfLinks uri scanned.value, scanned.malformed⟩

/-- The endpoint of a provider whose URL is used as an identifier. -/
def ofProviderUrl (url : Text) : Endpoint := make none url [OpenidType.server] none false

/-- The endpoint for an XRI: it claims the CanonicalID and displays the name. -/
def forXri (canonicalId iname : Text) (endpoint : Endpoint) : Endpoint :=
  { endpoint with claimedId := some canonicalId, displayId := some iname }

/-- Whether the provider chooses the identifier. -/
def isProvider (endpoint : Endpoint) : Bool := endpoint.typeUris.contains OpenidType.server

/-- Whether only version 1 is supported. -/
def isVersion1 (endpoint : Endpoint) : Bool :=
  !(endpoint.isProvider || endpoint.typeUris.contains OpenidType.signon)

/-- Whether a type is supported; a provider that chooses the identifier also signs on. -/
def supports (endpoint : Endpoint) (type : Text) : Bool :=
  endpoint.typeUris.contains type || (type == OpenidType.signon && endpoint.isProvider)

/-- The local identifier, or else the claimed one. -/
def localOrClaimed (endpoint : Endpoint) : Option Text := endpoint.localId.or endpoint.claimedId

/-- The identifier to show: the one for display, or else the claimed one without its fragment. -/
def shown (endpoint : Endpoint) : Option Text :=
  endpoint.displayId.or (endpoint.claimedId.map (Text.before '#'))

/-- The place of the first of some types that an endpoint has; their number when it has none. -/
def preference (preferred : List Text) (endpoint : Endpoint) : Nat :=
  preferred.findIdx endpoint.typeUris.contains

/-- Sorts by the first preferred type that each endpoint has; equal ones keep their order. -/
def arrange (preferred : List Text) (endpoints : List Endpoint) : List Endpoint :=
  endpoints.mergeSort fun a b => a.preference preferred ≤ b.preference preferred

/-- The endpoints whose provider chooses the identifier, or else all by version. -/
def preferred (endpoints : List Endpoint) : List Endpoint :=
  if endpoints.any isProvider then endpoints.filter isProvider
  else arrange OpenidType.all endpoints

end Endpoint

end RelyingParty
