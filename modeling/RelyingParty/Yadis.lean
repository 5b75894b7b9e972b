import RelyingParty.Accept
import RelyingParty.Flow
import RelyingParty.Html.Location

/-! Yadis discovery: at most two fetches lead from a URL to its XRDS document. -/

namespace RelyingParty.Yadis

/-- The media type of XRDS documents. -/
def documentType : Text := "application/xrds+xml"

/-- The header that names the location of an XRDS document. -/
def locationHeader : Text := "X-XRDS-Location"

/-- The media types of pages that may name the location. -/
def pageTypes : List Text := ["text/html", "application/xhtml+xml"]

/-- The qualities of pages are given in tenths. -/
def preferences : List Accept.Preference :=
  [⟨"text/html", some (Binary64.ofRatio false 3 10)⟩,
    ⟨"application/xhtml+xml", some (Binary64.ofRatio false 5 10)⟩, ⟨documentType, none⟩]

/-- The header of the first request. -/
def acceptHeader : Text := (Accept.generate preferences).toOption.getD []

/-- Whether a content type is that of XRDS documents. -/
def isDocumentType (contentType : Text) : Bool := mediaTypeOf contentType = documentType

/-- What the fetches found: the URL behind the redirects of the first one, and the document with its
URL, or the first body when there is none. -/
structure Finding where
  requestUrl : Text
  normalizedUrl : Text
  xrdsUrl : Option Text
  contentType : Option Text
  body : Text
  deriving DecidableEq, Repr

/-- Whether the document was fetched from another URL. -/
def Finding.usedLocation (finding : Finding) : Bool :=
  finding.xrdsUrl.any (· ≠ finding.normalizedUrl)

/-- Whether the body is an XRDS document. -/
def Finding.isXrds (finding : Finding) : Bool :=
  finding.usedLocation || finding.contentType.any isDocumentType

/-- Where the document of a response is, by its header or by its page. -/
def locationOf (response : Response) : Html.Scanned (Option Text) :=
  match response.header? locationHeader with
  -- The header decides alone; the page is not even read.
  | some location => ⟨some (Text.trim location), false⟩
  | none =>
    if response.mediaType?.all pageTypes.contains then Html.pageLocation response.body
    else ⟨none, false⟩

/-- Reports a scan that malformed markup ended, and gives what it found. -/
def reportScan {α : Type} (purpose : Event.ScanPurpose) (scanned : Html.Scanned α) : Flow α :=
  if scanned.malformed then .report (.scanStopped purpose) (pure scanned.value)
  else pure scanned.value

/-- Fetches a URL whose response has to be complete. -/
def fetchComplete (url : Text) (request : Request) : Flow Response := do
  let response ← Flow.request request fun fault => .discovery url (.transport fault)
  if response.isComplete then return response
  else Flow.fail (.discovery url (.status response.status))

/-- Fetches the document that a first response locates. -/
def fetchDocument (url location : Text) (first : Response) : Flow Finding := do
  let response ← fetchComplete location (.get location)
  let contentType := response.header? "content-type"
  -- What was located has to be the document itself: no further location is followed.
  if contentType.any isDocumentType then
    return ⟨url, first.finalUrl, some response.finalUrl, contentType, response.body⟩
  else Flow.fail (.discovery response.finalUrl (.notXrds contentType))

/-- Fetches a URL, and the document it locates unless it is one. -/
def discover (url : Text) : Flow Finding := do
  let response ← fetchComplete url ((Request.get url).withHeader "Accept" acceptHeader)
  let contentType := response.header? "content-type"
  if contentType.any isDocumentType then
    return ⟨url, response.finalUrl, some response.finalUrl, contentType, response.body⟩
  else
    match ← reportScan .location (locationOf response) with
    -- The first body is kept, since links may stand in it.
    | none => return ⟨url, response.finalUrl, none, contentType, response.body⟩
    | some location => fetchDocument url location response

/-- The fault of a document that gives no endpoints. -/
def applyFault (url : Text) : ApplyFault → Fault
  | .document fault => .discovery url (.document fault)
  | .filter fault => .discovery url (.filter fault)

/-- The URL behind redirects and the endpoints that a filter makes of its document. -/
def filtered {ε : Type} (filter : Filter ε) (url : Text) : Flow (Text × List ε) := do
  let finding ← discover url
  if finding.isXrds then
    match filter.apply finding.normalizedUrl finding.body with
    | .ok endpoints => return (finding.normalizedUrl, endpoints)
    | .error fault => Flow.fail (applyFault finding.normalizedUrl fault)
  -- To find no document is no fault; there are just no endpoints.
  else return (finding.normalizedUrl, [])

/-- Discovers the endpoints of a URL; a URL without a document has none. -/
def endpoints {ε : Type} (filter : Filter ε) (url : Text) : Flow (Text × List ε) :=
  Flow.observe .yadis "get_service_endpoints" (filtered filter url)

end RelyingParty.Yadis
