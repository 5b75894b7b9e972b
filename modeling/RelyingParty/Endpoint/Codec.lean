import RelyingParty.Endpoint
import RelyingParty.Json.Decode

/-! Endpoints as JSON values. -/

namespace RelyingParty.Endpoint

/-- Writes an endpoint. -/
def toJson (endpoint : Endpoint) : Json :=
  .ofMembers
    [("claimed_identifier", .ofOption endpoint.claimedId),
      ("server_url", .string endpoint.serverUrl),
      ("type_uris", .ofTexts endpoint.typeUris), ("local_id", .ofOption endpoint.localId),
      ("used_yadis", .bool endpoint.usedYadis),
      ("display_identifier", .ofOption endpoint.displayId)]

/-- Reads an endpoint. -/
def ofJson : Json.Decoder Endpoint :=
  Json.decodeRecord "Endpoint" 6 fun source =>
    .also (.also (.also (.also (.also (.also (.read mk)
      (source.optional 0 "claimed_identifier" Json.decodeText))
      (source.required 1 "server_url" Json.decodeText))
      (source.required 2 "type_uris" (Json.decodeList Json.decodeText)))
      (source.optional 3 "local_id" Json.decodeText))
      (source.required 4 "used_yadis" Json.decodeFlag))
      (source.optional 5 "display_identifier" Json.decodeText)

end RelyingParty.Endpoint
