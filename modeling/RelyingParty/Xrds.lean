import RelyingParty.Xml.Document
import RelyingParty.Service
import RelyingParty.Xri
import RelyingParty.Text.Blank
import RelyingParty.Text.Case

/-! XRDS documents: the services of an identifier, and the chain that vouches for its
CanonicalID. -/

namespace RelyingParty

/-- Why an XRDS document is of no use. -/
inductive XrdsFault where
  | malformedXml
  | wrongRoot
  | missingXrd
  | fraud (claimed authority : Text)
  | missingCanonicalId (iname : Text)
  deriving DecidableEq, Repr

namespace XrdsFault

/-- Whether a document claims an authority it does not have. -/
def isFraud : XrdsFault → Bool
  | fraud _ _ => true
  | _ => false

/-- The message of a fault. -/
def message : XrdsFault → Text
  | malformedXml => "Not an XRDS document: the text is not well-formed XML."
  | wrongRoot => "Not an XRDS document: root element is not xrds:XRDS."
  | missingXrd => "No XRD element found."
  | fraud claimed authority => claimed ++ " can not come from " ++ authority ++ "."
  | missingCanonicalId iname => "No CanonicalID found for XRI ".toList ++ iname ++ "."

end XrdsFault

/-- One description of an identifier. -/
structure Xrd where
  canonicalId : Option Text
  services : List Service
  deriving DecidableEq, Repr

/-- The descriptions of a document; the last one is the identifier's own. -/
structure Xrds where
  xrds : List Xrd
  deriving DecidableEq, Repr

namespace Xrds

/-- The namespace of the root. -/
def rootSpace : Text := "xri://$xrds"

/-- The namespace of descriptions. -/
def xrdSpace : Text := "xri://$xrd*($v*2.0)"

/-- The namespace of delegates. -/
def openidSpace : Text := "http://openid.net/xmlns/1.0"

/-- The text of an element, trimmed. -/
def textOf (node : Xml.Node) : Text := Text.trim node.leadingText

/-- The texts of the children of a name. -/
def textsOf (space base : Text) (node : Xml.Node) : List Text :=
  (node.childrenNamed space base).map textOf

/-- The priority of an element, when it is a number. -/
def priorityOf (node : Xml.Node) : Option Int :=
  (node.attribute? "priority").bind fun value => Text.int64? (Text.trim value)

/-- The URI of an element. -/
def uriOf (node : Xml.Node) : ServiceUri := ⟨priorityOf node, textOf node⟩

/-- The service of an element. -/
def serviceOf (node : Xml.Node) : Service where
  priority := priorityOf node
  types := textsOf xrdSpace "Type" node
  uris := (node.childrenNamed xrdSpace "URI").map uriOf
  localIds := textsOf xrdSpace "LocalID" node
  delegates := textsOf openidSpace "Delegate" node

/-- The description of an element. -/
def xrdOf (node : Xml.Node) : Xrd where
  canonicalId := (textsOf xrdSpace "CanonicalID" node).head?
  services := (node.childrenNamed xrdSpace "Service").map serviceOf

/-- Reads a document. -/
def parse (text : Text) : Except XrdsFault Xrds :=
  match Xml.parse? text with
  | none => .error .malformedXml
  | some root =>
    if root.isElement rootSpace "XRDS" then .ok ⟨(root.childrenNamed xrdSpace "XRD").map xrdOf⟩
    else .error .wrongRoot

/-- The services of the last description. -/
def services (document : Xrds) : Except XrdsFault (List Service) :=
  match document.xrds.getLast? with
  | some xrd => .ok xrd.services
  | none => .error .missingXrd

/-- The identifier that must be vouched for by an authority: each description upwards has to hold
the identifier so far without its last segment. -/
def climb (child : Text) : List Xrd → Except XrdsFault Text
  | [] => .ok child
  | xrd :: above =>
    let parent := (xrd.canonicalId.map Xri.withScheme).getD []
    match Text.splitLast '!' child with
    | none => .error (.fraud child parent)
    | some (sought, _) =>
      if sought = Text.lower parent then climb sought above else .error (.fraud sought parent)

/-- The CanonicalID of the last description, as written. Its chain is climbed up to the identifier
of the first one, which the root authority of the name must have issued; case does not count. -/
def canonicalId (document : Xrds) (iname : Text) : Except XrdsFault (Option Text) :=
  match document.xrds.reverse with
  | [] => .ok none
  | last :: above =>
    match last.canonicalId with
    | none => .ok none
    | some candidate => do
      let top ← climb (Text.lower (Xri.withScheme candidate)) above
      let root := Text.lower (Xri.rootAuthority iname)
      if Xri.isAuthoritative root top then return some candidate else throw (.fraud top root)

end Xrds

end RelyingParty
