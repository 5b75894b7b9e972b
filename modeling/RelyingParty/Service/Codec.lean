import RelyingParty.Service
import RelyingParty.Json.Decode

/-! Services as JSON values. -/

namespace RelyingParty

/-- Writes a URI of a service. -/
def ServiceUri.toJson (uri : ServiceUri) : Json :=
  .ofMembers [("priority", .ofOptionalInt uri.priority), ("uri", .string uri.uri)]

/-- Writes a service. -/
def Service.toJson (service : Service) : Json :=
  .ofMembers
    [("priority", .ofOptionalInt service.priority), ("types", .ofTexts service.types),
      ("uris", .array (service.uris.map ServiceUri.toJson)),
      ("local_ids", .ofTexts service.localIds), ("delegates", .ofTexts service.delegates)]

/-- Reads a URI of a service. -/
def ServiceUri.ofJson : Json.Decoder ServiceUri :=
  Json.decodeRecord "ServiceUri" 2 fun source =>
    .also (.also (.read mk)
      (source.optional 0 "priority" Json.decodeInt64))
      (source.required 1 "uri" Json.decodeText)

/-- Reads a service. -/
def Service.ofJson : Json.Decoder Service :=
  Json.decodeRecord "ServiceElement" 5 fun source =>
    .also (.also (.also (.also (.also (.read mk)
      (source.optional 0 "priority" Json.decodeInt64))
      (source.required 1 "types" (Json.decodeList Json.decodeText)))
      (source.required 2 "uris" (Json.decodeList ServiceUri.ofJson)))
      (source.required 3 "local_ids" (Json.decodeList Json.decodeText)))
      (source.required 4 "delegates" (Json.decodeList Json.decodeText))

end RelyingParty
