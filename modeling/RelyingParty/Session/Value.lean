import RelyingParty.Endpoint.Codec
import RelyingParty.Fault
import RelyingParty.Session.Cursor

/-! Session values as JSON, each with its kind. -/

namespace RelyingParty

/-- How endpoints are written as JSON and read. -/
structure EndpointCodec (ε : Type) where
  encode : ε → Json
  decode : Json.Decoder ε

/-- The codec of OpenID endpoints. -/
def EndpointCodec.openid : EndpointCodec Endpoint := ⟨Endpoint.toJson, Endpoint.ofJson⟩

/-- The codec of plain texts. -/
def EndpointCodec.text : EndpointCodec Text := ⟨.string, Json.decodeText⟩

/-- What a session holds under a key. -/
inductive SessionValue (ε : Type) where
  | endpoint (endpoint : ε)
  | raw (text : Text)
  | cursor (cursor : Cursor ε)
  deriving DecidableEq, Repr

/-- The kinds of session values. -/
inductive SessionKind where
  | endpoint
  | raw
  | cursor
  deriving DecidableEq, Repr

namespace SessionKind

/-- The name of a kind. -/
def name : SessionKind → Text
  | endpoint => "endpoint"
  | raw => "raw"
  | cursor => "cursor"

/-- All kinds. -/
def all : List SessionKind := [endpoint, raw, cursor]

/-- The kind of a name. -/
def ofName (written : Text) : Except Json.Mismatch SessionKind :=
  match all.find? (·.name = written) with
  | some kind => .ok kind
  | none => .error ⟨[], .unknownVariant written (all.map name)⟩

/-- Reads a kind, either its name or an object whose only member has that name and no value. -/
def ofJson : Json.Decoder SessionKind
  | .string written => ofName written
  | .object [(written, value)] => do
    let kind ← ofName written
    match value with
    | .null => return kind
    | _ => throw ⟨[.member written], .wrongType value.describe "unit"⟩
  | .object members =>
    .error ⟨[], .wrongValue (Json.object members).describe "map with a single key"⟩
  | value => .error (Json.unexpected value "string or map")

end SessionKind

variable {ε : Type}

/-- Writes a cursor. -/
def Cursor.toJson (codec : EndpointCodec ε) (cursor : Cursor ε) : Json :=
  .ofMembers
    [("starting_url", .string cursor.startingUrl), ("yadis_url", .string cursor.yadisUrl),
      ("services", .array (cursor.services.map codec.encode)),
      ("current", (cursor.current.map codec.encode).getD .null)]

/-- Reads a cursor. -/
def Cursor.ofJson (codec : EndpointCodec ε) : Json.Decoder (Cursor ε) :=
  Json.decodeRecord "DiscoveredServices" 4 fun source =>
    .also (.also (.also (.also (.read mk)
      (source.required 0 "starting_url" Json.decodeText))
      (source.required 1 "yadis_url" Json.decodeText))
      (source.required 2 "services" (Json.decodeList codec.decode)))
      (source.optional 3 "current" codec.decode)

namespace SessionValue

/-- The kind of a value. -/
def kind : SessionValue ε → SessionKind
  | endpoint _ => .endpoint
  | raw _ => .raw
  | cursor _ => .cursor

/-- Writes what a value holds. -/
def contentToJson (codec : EndpointCodec ε) : SessionValue ε → Json
  | endpoint content => codec.encode content
  | raw content => .string content
  | cursor content => content.toJson codec

/-- Writes a value. -/
def toJson (codec : EndpointCodec ε) (value : SessionValue ε) : Json :=
  .ofMembers [("kind", .string value.kind.name), ("value", value.contentToJson codec)]

/-- Reads what a value of a kind holds. -/
def contentOfJson (codec : EndpointCodec ε) : SessionKind → Json.Decoder (SessionValue ε)
  | .endpoint => fun content => (codec.decode content).map endpoint
  | .raw => fun content => (Json.decodeText content).map raw
  | .cursor => fun content => (Cursor.ofJson codec content).map cursor

/-- What is expected where a session value stands. -/
def title : Text := "adjacently tagged enum SessionValue"

/-- Reads a value from an object with its kind and content, or from an array of both. -/
def ofJson (codec : EndpointCodec ε) : Json.Decoder (SessionValue ε)
  | .object members => do
    let some kind := Table.get? "kind" members | throw ⟨[], .missingField "kind"⟩
    let kind ← Json.decodeAt (.member "kind") SessionKind.ofJson kind
    let some content := Table.get? "value" members | throw ⟨[], .missingField "value"⟩
    Json.decodeAt (.member "value") (contentOfJson codec kind) content
  | .array [] => .error ⟨[], .wrongLength 0 title⟩
  | .array (kind :: rest) => do
    let kind ← Json.decodeAt (.item 0) SessionKind.ofJson kind
    match rest with
    | [] => throw ⟨[], .wrongLength 1 title⟩
    | content :: more =>
      let value ← Json.decodeAt (.item 1) (contentOfJson codec kind) content
      -- The content is read before the length is judged, so its fault comes first.
      if more.isEmpty then return value
      else throw ⟨[], .wrongLength (rest.length + 1) "fewer elements in array"⟩
  | value => .error (Json.unexpected value title)

/-- The fault of a value that cannot be read: its reason and where it arises. -/
def faultOf (mismatch : Json.Mismatch) : SessionFault :=
  .serialization
    (mismatch.reason.message ++ " at \x60" ++ Json.pathText mismatch.path ++ "\x60")

/-- Reads a value of the session. -/
def decode (codec : EndpointCodec ε) (value : Json) : Except SessionFault (SessionValue ε) :=
  (ofJson codec value).mapError faultOf

end SessionValue

end RelyingParty
