import RelyingParty.Filter
import RelyingParty.Service.Codec

/-! Candidates as JSON values. -/

namespace RelyingParty

/-- Writes a candidate. -/
def Candidate.toJson (candidate : Candidate) : Json :=
  .ofMembers
    [("yadis_url", .string candidate.yadisUrl), ("type_uris", .ofTexts candidate.typeUris),
      ("uri", .string candidate.uri), ("service", candidate.service.toJson)]

/-- Reads a candidate. -/
def Candidate.ofJson : Json.Decoder Candidate :=
  Json.decodeRecord "BasicServiceEndpoint" 4 fun source =>
    .also (.also (.also (.also (.read mk)
      (source.required 0 "yadis_url" Json.decodeText))
      (source.required 1 "type_uris" (Json.decodeList Json.decodeText)))
      (source.required 2 "uri" Json.decodeText))
      (source.required 3 "service" Service.ofJson)

end RelyingParty
