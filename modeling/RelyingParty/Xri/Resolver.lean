import RelyingParty.Xri
import RelyingParty.Form

/-! XRIs are resolved by asking a proxy for their XRDS document. -/

namespace RelyingParty.Xri

/-- A proxy that resolves XRIs, by a base URL that ends in a slash. -/
structure Resolver where
  proxyUrl : Text
  deriving DecidableEq, Repr

/-- The URL with a slash at its end. -/
def withSlash (url : Text) : Text := if Text.endsWith ['/'] url then url else url ++ ['/']

namespace Resolver

/-- The resolver at a base URL. -/
def ofUrl (url : Text) : Resolver := ⟨withSlash url⟩

/-- The proxy used when none is configured. -/
def defaultProxy : Text := "http://proxy.xri.net/"

/-- The media type of XRDS documents. -/
def documentType : Text := "application/xrds+xml"

/-- The arguments of a query; without a service type the whole document is asked for. -/
def arguments : Option Text → List (Text × Text)
  | some serviceType => [("_xrd_r", documentType), ("_xrd_t", serviceType)]
  | none => [("_xrd_r", documentType ++ ";sep=false")]

/-- The URL that asks for an XRI. -/
def queryUrl (resolver : Resolver) (xri : Text) (serviceType : Option Text) : Text :=
  Form.appendArguments (resolver.proxyUrl ++ withoutScheme (uriNormal xri)) (arguments serviceType)

end Resolver

end RelyingParty.Xri
