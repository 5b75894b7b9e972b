import RelyingParty.Endpoint
import RelyingParty.Xri.Query
import RelyingParty.Yadis

/-! Discovery of the OpenID endpoints of an identifier, a URL or an XRI. -/

namespace RelyingParty.Discovery

/-- The identifier as an HTTP URL; one without a scheme gets one. -/
def withScheme (identifier : Text) : Except Fault Text :=
  match Text.splitAt? "://" identifier with
  -- With nothing behind the mark there is no scheme either.
  | some (scheme, _ :: _) =>
    if Scheme.isName scheme then
      if (Scheme.ofText? scheme).isSome then .ok identifier
      else .error (.discovery identifier .scheme)
    -- What stands in front of the mark is no scheme, so it is part of the address.
    else .ok ("http://".toList ++ identifier)
  | _ => .ok ("http://".toList ++ identifier)

/-- The endpoints of a document; a document that cannot be read has none, unless it is a fraud. -/
def documentEndpoints (finding : Yadis.Finding) : Except Fault (List Endpoint) :=
  if finding.isXrds then
    match Endpoint.openidFilter.apply finding.normalizedUrl finding.body with
    | .ok endpoints => .ok endpoints
    -- An unreadable document may still lead to the links of the page; a broken chain may not.
    | .error (.document fault) => if fault.isFraud then .error (.xrds fault) else .ok []
    | .error (.filter fault) => .error (.discovery finding.normalizedUrl (.filter fault))
  else .ok []

/-- Reports the endpoints of a source and gives those to try with their claimed identifier. -/
def settle (source : EndpointSource) (claimed : Except Fault Text) (endpoints : List Endpoint) :
    Flow (Text × List Endpoint) := do
  Flow.tell (.found source endpoints.length)
  let claimed ← Flow.done claimed
  return (claimed, Endpoint.preferred endpoints)

/-- The endpoints of a page at a URL. -/
def ofPage (url page : Text) (claimed : Except Fault Text) : Flow (Text × List Endpoint) := do
  let endpoints ← Yadis.reportScan .links (Endpoint.ofPage url page)
  settle .html claimed endpoints

/-- Fetches a URL again, for the endpoints of its page. -/
def refetched (url : Text) : Flow (Text × List Endpoint) := do
  let response ← Yadis.fetchComplete url (.get url)
  let claimed ← Flow.done (normalUrl response.finalUrl)
  ofPage claimed response.body (.ok claimed)

/-- Discovers a normalized URL: from its document, or from its page when that gives none. -/
def ofNormalUrl (url : Text) : Flow (Text × List Endpoint) := do
  let finding ← Yadis.discover url
  let endpoints ← Flow.done (documentEndpoints finding)
  if endpoints ≠ [] then settle .yadis (normalUrl finding.normalizedUrl) endpoints
  -- The body at hand is a document here, so the page has to be fetched again.
  else if finding.isXrds then refetched url
  -- The body at hand is the page already.
  else ofPage finding.normalizedUrl finding.body (normalUrl finding.normalizedUrl)

/-- Discovers a URL. -/
def ofUrl (identifier : Text) : Flow (Text × List Endpoint) := do
  let url ← Flow.done ((withScheme identifier).bind normalUrl)
  Flow.observe .yadis "discover_uri" (ofNormalUrl url)

/-- Resolves an XRI without its scheme; its endpoints claim the CanonicalID and show the XRI. -/
def ofIname (resolver : Xri.Resolver) (iname : Text) : Flow (Text × List Endpoint) := do
  let (canonicalId, services) ← resolver.query iname
  let some canonicalId := canonicalId | Flow.fail (.xrds (.missingCanonicalId iname))
  -- The filter claims the name itself, and each endpoint is given the CanonicalID afterwards.
  match Endpoint.openidFilter.endpointsByPriority iname services with
  | .error fault => Flow.fail (.discovery iname (.filter fault))
  | .ok endpoints => settle .xri (.ok iname) (endpoints.map (Endpoint.forXri canonicalId iname))

/-- Discovers an XRI through a resolver. -/
def ofXri (resolver : Xri.Resolver) (xri : Text) : Flow (Text × List Endpoint) :=
  Flow.observe .xri "discover_xri" (ofIname resolver (Xri.withoutScheme xri))

/-- Discovers an identifier. -/
def discover (resolver : Xri.Resolver) (identifier : Text) : Flow (Text × List Endpoint) :=
  if Xri.isXri identifier then ofXri resolver identifier else ofUrl identifier

end RelyingParty.Discovery
