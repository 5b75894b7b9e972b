import RelyingParty.Xrds

/-! Writing an XRDS document with one description. -/

namespace RelyingParty.Xrds

/-- An element without attributes. -/
def elementText (base content : Text) : Text :=
  '<' :: base ++ '>' :: content ++ "</" ++ base ++ ">"

/-- A service with types and URIs, on a line of its own. -/
def serviceText (types uris : List Text) : Text :=
  elementText "Service" (types.flatMap (elementText "Type") ++ uris.flatMap (elementText "URI")) ++
    "\n"

/-- The document of some services. -/
def documentText (services : List (List Text × List Text)) : Text :=
  "<?xml version=\"1.0\" encoding=\"UTF-8\"?>\n<xrds:XRDS xmlns:xrds=\"".toList ++ rootSpace ++
    "\" xmlns=\"" ++ xrdSpace ++ "\" xmlns:openid=\"" ++ openidSpace ++ "\">\n<XRD>\n" ++
    services.flatMap (fun service => serviceText service.1 service.2) ++ "\n</XRD>\n</xrds:XRDS>"

end RelyingParty.Xrds
