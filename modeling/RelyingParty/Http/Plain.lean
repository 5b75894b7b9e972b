import RelyingParty.Http.Client
import RelyingParty.Text.Base64

/-! Requests as plain HTTP carries them to a peer. -/

namespace RelyingParty

/-- A request on its way, for one URL without user and fragment; header names are in lower case. -/
structure Sent where
  url : Text
  headers : List (Text × Text)
  body : Option Text
  deriving DecidableEq, Repr

/-- The other end of all connections; it answers or hangs up. -/
abbrev Peer (σ : Type) := Sent → σ → Option Reply × σ

namespace Sent

/-- The method of a request. -/
def method (sent : Sent) : Text := methodOf sent.body

/-- Whether a text may be the name of a header. -/
def isHeaderName (name : Text) : Bool :=
  name ≠ [] && name.all fun c => c.isAlphanum || "!#$%&\x27*+-.^_\x60|~".toList.contains c

/-- Whether a text may be the value of a header. -/
def isHeaderValue (value : Text) : Bool :=
  value.all fun c => c = '\t' || (' ' ≤ c && c ≠ '\x7f')

/-- Whether a host may stand in a request. -/
def isHostSendable : Host → Bool
  | .domain name => name.all fun c => !"\"\x60\x7b\x7d".toList.contains c
  | _ => true

/-- The value that logs a user in, when the URL names one. -/
def authorization? (url : Url) : Option Text := do
  let username ← Url.textOf? (Url.unescape url.username)
  let password := url.password.bind fun password => Url.textOf? (Url.unescape password)
  -- A password alone is a login too.
  if username = [] ∧ password = none then none
  else
    let login := username ++ ':' :: password.getD []
    return "Basic ".toList ++ Base64.encode (Text.utf8 login)

/-- The headers of a request with the login of its URL and the wish for any type, unless it names
one. -/
def headersOf (outgoing : Outgoing) : List (Text × Text) :=
  let login :=
    match authorization? outgoing.url with
    | some value => [("authorization".toList, value)]
    | none => []
  let accept :=
    if Outgoing.isGiven "accept" outgoing.headers then [] else [("accept".toList, "*/*".toList)]
  -- Names are sent in lower case, and the wish for any type comes last.
  login ++ outgoing.headers.map (fun header => (Text.asciiLower header.1, header.2)) ++ accept

/-- The URL as the peer sees it. -/
def visibleUrl (url : Url) : Url := { url with username := [], password := none, fragment := none }

/-- The form of a request in which it is sent; only plain HTTP can be spoken, and only with lawful
headers. -/
def make? (outgoing : Outgoing) : Option Sent :=
  let isLawful :=
    outgoing.headers.all fun header => isHeaderName header.1 && isHeaderValue header.2
  -- What would have to be encrypted is not sent.
  if isLawful && outgoing.url.scheme = "http" && outgoing.url.host.any isHostSendable then
    some ⟨(visibleUrl outgoing.url).render, headersOf outgoing, outgoing.body⟩
  else none

end Sent

/-- The transport that speaks plain HTTP to a peer. -/
def Peer.transport {σ : Type} (peer : Peer σ) : Transport σ := fun outgoing state =>
  match Sent.make? outgoing with
  | none => (none, state)
  | some sent => peer sent state

end RelyingParty
