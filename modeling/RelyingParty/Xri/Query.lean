import RelyingParty.Flow
import RelyingParty.Xri.Resolver

/-! Asking a proxy for the document of an XRI. -/

namespace RelyingParty.Xri

/-- The checked CanonicalID and the services of a document. -/
def answerOf (xri text : Text) : Except XrdsFault (Option Text × List Service) := do
  let document ← Xrds.parse text
  let canonicalId ← document.canonicalId xri
  return (canonicalId, ← document.services)

/-- The CanonicalID and the services of an XRI. -/
def Resolver.query (resolver : Resolver) (xri : Text) : Flow (Option Text × List Service) := do
  let url := resolver.queryUrl xri none
  let response ← Flow.request (.get url) fun fault => .discovery url (.resolver xri fault)
  if response.isComplete then .done ((answerOf xri response.body).mapError .xrds)
  else Flow.fail (.discovery url (.resolverStatus xri response.status))

end RelyingParty.Xri
