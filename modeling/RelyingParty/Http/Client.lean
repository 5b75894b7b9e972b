import RelyingParty.Http
import RelyingParty.Url

/-! A client sends requests over a transport, follows redirects up to a limit, and reads bodies up
to a size. -/

namespace RelyingParty

/-- What a client asks of the network: one URL, the headers as they are written, and the body. -/
structure Outgoing where
  url : Url
  headers : List (Text × Text)
  body : Option Text
  deriving DecidableEq, Repr

/-- The method of a request, which its body decides. -/
def methodOf (body : Option Text) : Text := if body.isSome then "POST" else "GET"

namespace Outgoing

/-- The method of a request. -/
def method (outgoing : Outgoing) : Text := methodOf outgoing.body

/-- How the client names itself. -/
def agent : Text := "openid-discovery/0.1.0"

/-- The type of bodies when the request does not name one. -/
def formType : Text := "application/x-www-form-urlencoded"

/-- Whether one of some headers has a name, in any case. -/
def isGiven (name : Text) (headers : List (Text × Text)) : Bool :=
  headers.any fun header => Text.asciiLower header.1 = name

/-- The headers of a request: the name of the client, those that are given, and the type of a body
that has none. -/
def headersOf (given : Table Text) (body : Option Text) : List (Text × Text) :=
  let type :=
    if body.isSome && !isGiven "content-type" given then [("content-type".toList, formType)] else []
  ("user-agent".toList, agent) :: given ++ type

end Outgoing

/-- What a peer sends back: the length that it declares, and the body in the pieces that arrive,
which the connection may cut off. -/
structure Reply where
  status : Nat
  headers : List (Text × Octets)
  declaredLength : Option Nat
  chunks : List Octets
  isCutOff : Bool
  deriving DecidableEq, Repr

/-- Carries requests to the other end of all connections; nothing comes back when the network
fails. -/
abbrev Transport (σ : Type) := Outgoing → σ → Option Reply × σ

/-- A client with its limits for redirects and for the octets of a body. -/
structure Client (σ : Type) where
  transport : Transport σ
  redirectLimit : Nat
  bodyLimit : Nat

/-- The octets of a body that are accepted when nothing else is said. -/
def defaultBodyLimit : Nat := 10485760

namespace Reply

/-- The value of a header without blanks around it. -/
def fieldValue (octets : Octets) : Octets :=
  let isBlank (octet : UInt8) : Bool := octet = 0x20 || octet = 0x09
  ((octets.dropWhile isBlank).reverse.dropWhile isBlank).reverse

/-- The text of octets that are all visible ASCII, blanks or tabs. -/
def visibleText? (octets : Octets) : Option Text :=
  if octets.all fun octet => octet = 0x09 || (0x20 ≤ octet && octet ≤ 0x7E) then
    some (octets.map fun octet => Char.ofNat octet.toNat)
  else none

/-- Puts the value of a header behind those of the same name. -/
def addHeader (headers : Table Text) (name value : Text) : Table Text :=
  match Table.get? name headers with
  | some earlier => Table.insert name (earlier ++ ", " ++ value) headers
  | none => Table.insert name value headers

/-- The headers with visible values, names in lower case. -/
def headerTable (reply : Reply) : Table Text :=
  reply.headers.foldl
    (fun headers header =>
      match visibleText? (fieldValue header.2) with
      | some value => addHeader headers (Text.asciiLower header.1) value
      -- A value that is no visible text counts as missing.
      | none => headers)
    []

/-- Where a redirect leads, as it is written. -/
def location? (reply : Reply) : Option Octets :=
  if 300 ≤ reply.status ∧ reply.status < 400 then
    (reply.headers.find? fun header => Text.asciiLower header.1 = "location").map fun header =>
      fieldValue header.2
  else none

/-- Whether a redirect is followed without the body of the request. -/
def dropsBody (reply : Reply) : Bool :=
  reply.status = 301 || reply.status = 302 || reply.status = 303

/-- The pieces of a body behind those that are held, unless they exceed the limit. -/
def gather? (limit : Nat) (held : Octets) : (chunks : List Octets) → Option Octets
  | [] => some held
  | chunk :: rest =>
    if limit < held.length + chunk.length then none else gather? limit (held ++ chunk) rest

/-- Reads the body of the reply for a URL. -/
def readBody (limit : Nat) (url : Text) (reply : Reply) : Except TransportFault Text :=
  if reply.declaredLength.any (limit < ·) then .error (.responseTooLarge url limit)
  else
    -- The declared length may be missing or wrong, so the pieces are counted as well.
    match gather? limit [] reply.chunks with
    | none => .error (.responseTooLarge url limit)
    -- What has arrived of a body that is cut off is not used.
    | some octets => if reply.isCutOff then .error (.network url) else .ok (Text.ofUtf8 octets)

/-- The response that a reply for a URL is. -/
def response (limit : Nat) (url : Text) (reply : Reply) : Except TransportFault Response := do
  let body ← reply.readBody limit url
  return ⟨reply.status, reply.headerTable, body, url⟩

end Reply

namespace Client

variable {σ : Type}

/-- Where a request stands: its URL, how messages name that URL, and the body that is left. -/
structure Hop where
  url : Url
  name : Text
  body : Option Text
  deriving DecidableEq, Repr

/-- The request of a hop, with the headers that are given for all of them. -/
def Hop.outgoing (given : Table Text) (hop : Hop) : Outgoing :=
  ⟨hop.url, Outgoing.headersOf given hop.body, hop.body⟩

/-- The hop that a redirect leads to. -/
def Hop.next? (hop : Hop) (reply : Reply) (location : Octets) : Option Hop := do
  let text ← Reply.visibleText? location
  let url ← (hop.url.resolve text).toOption
  return ⟨url, url.render, if reply.dropsBody then none else hop.body⟩

/-- Sends a request and follows redirects as long as some are left. -/
def follow (client : Client σ) (headers : Table Text) (limit : Nat) :
    (left : Nat) → Hop → σ → Except TransportFault Response × σ
  | left, hop, state =>
    match client.transport (hop.outgoing headers) state with
    -- Without a reply there is no telling what went wrong.
    | (none, state) => (.error (.network hop.name), state)
    | (some reply, state) =>
      match reply.location? with
      | none => (reply.response client.bodyLimit hop.name, state)
      | some location =>
        -- A redirect that may not be followed is a fault, even when it leads nowhere.
        match left with
        | 0 => (.error (.tooManyRedirects hop.name limit), state)
        | left + 1 =>
          match hop.next? reply location with
          | none => (.error (.invalidUrl hop.name), state)
          | some next => follow client headers limit left next state

/-- Answers a request, following redirects up to its own limit or that of the client. -/
def fetch (client : Client σ) (request : Request) (state : σ) :
    Except TransportFault Response × σ :=
  -- A limit of the request goes before the one of the client.
  let limit := request.redirectLimit.getD client.redirectLimit
  match Url.parse request.url with
  | .error _ => (.error (.invalidUrl request.url), state)
  | .ok url => client.follow request.headers limit limit ⟨url, request.url, request.body⟩ state

end Client

end RelyingParty
