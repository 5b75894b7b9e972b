import RelyingParty.Filter

/-! The rule that finds the return URLs a relying party declares. -/

namespace RelyingParty.Realm

/-- The type of services whose URIs are return URLs. -/
def returnUrlType : Text := "http://specs.openid.net/auth/2.0/return_to"

/-- The URI of a candidate that declares a return URL. -/
def returnUrlRule : Rule Text := fun candidate =>
  .ok (if candidate.typeUris.contains returnUrlType then some candidate.uri else none)

end RelyingParty.Realm
