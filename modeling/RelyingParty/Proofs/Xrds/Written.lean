import RelyingParty.Proofs.Text.Blank
import RelyingParty.Proofs.Xml.Content
import RelyingParty.Xrds

/-! The document that is written of some services is read as one description of the same
services. -/

namespace RelyingParty.Xrds

open Xml

/-- Whether a text is read back from an element that it is written into. -/
structure IsWritable (value : Text) : Prop extends IsPlain value where
  leads : value.head?.any Text.isBlank = false
  ends : value.getLast?.any Text.isBlank = false

instance (value : Text) : Decidable (IsWritable value) :=
  decidable_of_iff
    (IsPlain value ∧ value.head?.any Text.isBlank = false ∧ value.getLast?.any Text.isBlank = false)
    ⟨fun ⟨plain, leads, ends⟩ => ⟨plain, leads, ends⟩,
    fun writable => ⟨writable.toIsPlain, writable.leads, writable.ends⟩⟩

/-- The service that has types and URIs and nothing else. -/
def plainService (types uris : List Text) : Service where
  priority := none
  types := types
  uris := uris.map fun uri => ⟨none, uri⟩
  localIds := []
  delegates := []

/-- An element of a description. -/
def elementNode (base : Text) (children : List Node) : Node :=
  .element ⟨some xrdSpace, base⟩ [] children

/-- An element that holds a text, when there is any. -/
def leafNode (base value : Text) : Node :=
  elementNode base (if value = [] then [] else [.text value])

/-- The element of a service with types and URIs. -/
def serviceNode (types uris : List Text) : Node :=
  elementNode "Service" (types.map (leafNode "Type") ++ uris.map (leafNode "URI"))

/-- Elements on lines of their own; an empty line follows them. -/
def lines : List Node → List Node
  | [] => [.text "\n\n"]
  | node :: rest => .text "\n" :: node :: lines rest

/-- The elements of some services. -/
def serviceNodes (services : List (List Text × List Text)) : List Node :=
  services.map fun service => serviceNode service.1 service.2

/-- What the root of a document holds: one description of some services. -/
def rootNodes (services : List (List Text × List Text)) : List Node :=
  [.text "\n", elementNode "XRD" (lines (serviceNodes services)), .text "\n"]

/-- The text of a description of some services. -/
def servicesText (services : List (List Text × List Text)) : Text :=
  "\n".toList ++
    (services.flatMap (fun service => serviceText service.1 service.2) ++ "\n".toList)

section Layout

variable {base : Text} {types uris : List Text} {services : List (List Text × List Text)}

/-- Elements that hold plain texts are content in front of other content. -/
theorem content_leaves (named : Spells base ⟨[], base⟩) {values : List Text}
    (plain : ∀ value ∈ values, IsPlain value) {rest : Text} {nodes : List Node}
    (later : Content xrdSpace rest nodes) :
    Content xrdSpace (values.flatMap (elementText base) ++ rest)
      (values.map (leafNode base) ++ nodes) := by
  -- By induction on the values: each is an element, with or without a run of text in it.
  induction values with
  | nil => exact later
  | cons value values ih =>
    have inner : Content xrdSpace value (if value = [] then [] else [.text value]) := by
      by_cases empty : value = []
      · rw [if_pos empty, empty]
        exact .nil
      · rw [if_neg empty]
        simpa using Content.run empty (plain value List.mem_cons_self) (by simp) .nil
    have others := ih fun value inside => plain value (List.mem_cons_of_mem _ inside)
    rw [List.flatMap_cons, List.append_assoc]
    exact .element named inner others

/-- A service with plain types and URIs is content in front of other content. -/
theorem content_service (plain : ∀ value ∈ types ++ uris, IsPlain value) {rest : Text}
    {nodes : List Node} (later : Content xrdSpace rest nodes) :
    Content xrdSpace (elementText "Service" (types.flatMap (elementText "Type") ++
      uris.flatMap (elementText "URI")) ++ rest) (serviceNode types uris :: nodes) := by
  -- The types stand in front of the URIs, and both inside the service.
  obtain ⟨plain_types, plain_uris⟩ := List.forall_mem_append.mp plain
  have type : Spells "Type" ⟨[], "Type"⟩ := by decide
  have uri : Spells "URI" ⟨[], "URI"⟩ := by decide
  have inner := content_leaves type plain_types (content_leaves uri plain_uris .nil)
  simp only [List.append_nil] at inner
  exact .element (by decide) inner later

/-- The services of a description stand on lines of their own. -/
theorem content_services
    (plain : ∀ service ∈ services, ∀ value ∈ service.1 ++ service.2, IsPlain value) :
    Content xrdSpace (servicesText services) (lines (serviceNodes services)) := by
  -- By induction on the services, each behind a line end of its own.
  induction services with
  | nil =>
    have emptyLine : IsPlain "\n\n" := by decide
    exact .run (by decide) emptyLine (by simp) .nil
  | cons service services ih =>
    have others := ih fun other inside => plain other (List.mem_cons_of_mem _ inside)
    have first := content_service (plain service List.mem_cons_self) others
    rw [servicesText, List.flatMap_cons, serviceText, List.append_assoc, List.append_assoc]
    have newline : IsPlain "\n" := by decide
    refine .run (by decide) newline ?_ first
    intro c start
    rw [elementText_append] at start
    exact (Option.some.inj start).symm

end Layout

section Document

/-- What stands in front of the root. -/
def declarationText : Text := "<?xml version=\"1.0\" encoding=\"UTF-8\"?>\n"

/-- The namespaces that the root declares. -/
def namespacesText : Text :=
  attributeText "xmlns:xrds" rootSpace ++
    (attributeText "xmlns" xrdSpace ++ attributeText "xmlns:openid" openidSpace)

/-- The start tag of the root. -/
def rootStart : Text := '<' :: ("xrds:XRDS".toList ++ (namespacesText ++ ['>']))

/-- What stands between the tags of the root. -/
def bodyText (services : List (List Text × List Text)) : Text :=
  "\n".toList ++ (elementText "XRD" (servicesText services) ++ "\n".toList)

/-- A document is a declaration, the start of the root, one description and the end of the root. -/
theorem documentText_eq (services : List (List Text × List Text)) :
    documentText services =
      declarationText ++ (rootStart ++ (bodyText services ++ "</xrds:XRDS>".toList)) := by
  -- The fixed parts of the text are spelled out where one piece ends and another begins.
  have declared : "<?xml version=\"1.0\" encoding=\"UTF-8\"?>\n<xrds:XRDS xmlns:xrds=\"".toList =
      declarationText ++
        '<' :: ("xrds:XRDS".toList ++ ' ' :: ("xmlns:xrds".toList ++ ['=', '"'])) := rfl
  have second : "\" xmlns=\"".toList = '"' :: ' ' :: ("xmlns".toList ++ ['=', '"']) := rfl
  have third : "\" xmlns:openid=\"".toList =
      '"' :: ' ' :: ("xmlns:openid".toList ++ ['=', '"']) := rfl
  have opened : "\">\n<XRD>\n".toList =
      '"' :: '>' :: ("\n".toList ++ '<' :: ("XRD".toList ++ '>' :: "\n".toList)) := rfl
  have closed : "\n</XRD>\n</xrds:XRDS>".toList = "\n".toList ++ ("</".toList ++
      ("XRD".toList ++ (">".toList ++ ("\n".toList ++ "</xrds:XRDS>".toList)))) := rfl
  unfold documentText bodyText servicesText elementText rootStart namespacesText attributeText
  rw [declared, second, third, opened, closed]
  simp only [List.append_assoc, List.cons_append, List.nil_append]

/-- The root as it is open behind its start tag. -/
def rootOpen : Open :=
  ⟨⟨"xrds", "XRDS"⟩, ⟨some rootSpace, "XRDS"⟩, [],
    [("xrds", rootSpace), ([], xrdSpace), ("openid", openidSpace)], []⟩

/-- The declaration and the line end behind it are passed over. -/
theorem skipHeader?_declarationText (rest : Text) :
    (skipHeader? (declarationText ++ (rootStart ++ rest))).bind skipAside? =
      some (rootStart ++ rest) := by
  -- The header ends behind the declaration, and what follows the line end is a bracket.
  have header : skipHeader? (declarationText ++ (rootStart ++ rest)) =
      some ('\n' :: (rootStart ++ rest)) := rfl
  rw [header, Option.bind_some, skipAside?]
  rfl

/-- The start tag of the root opens it with three namespaces. -/
theorem readRoot?_rootStart (rest : Text) :
    readRoot? [] (rootStart ++ rest) = readRoot? [rootOpen] rest := by
  -- Its name and those of its attributes have prefixes, so all four are read as names.
  have root : Spells "xrds:XRDS" ⟨"xrds", "XRDS"⟩ := by decide
  have first : Spells "xmlns:xrds" ⟨"xmlns", "xrds"⟩ := by decide
  have second : Spells "xmlns" ⟨[], "xmlns"⟩ := by decide
  have third : Spells "xmlns:openid" ⟨"xmlns", "openid"⟩ := by decide
  -- The attributes are read one after the other, up to the bracket.
  have read : readAttributes? (namespacesText ++ '>' :: rest) =
      some ([(⟨"xmlns", "xrds"⟩, rootSpace), (⟨[], "xmlns"⟩, xrdSpace),
        (⟨"xmlns", "openid"⟩, openidSpace)], false, rest) := by
    rw [namespacesText, List.append_assoc, List.append_assoc,
      readAttributes?_attributeText first (by decide) (by decide),
      readAttributes?_attributeText second (by decide) (by decide),
      readAttributes?_attributeText third (by decide) (by decide), readAttributes?_of_bracket]
    rfl
  have written : rootStart ++ rest =
      '<' :: ("xrds:XRDS".toList ++ (namespacesText ++ '>' :: rest)) := by
    simp only [rootStart, List.append_assoc, List.cons_append, List.nil_append]
  rw [written]
  exact readRoot?_of_inside (readPiece?_start root rfl read rfl) rfl

/-- The end tag completes the root with the children it got. -/
theorem readRoot?_rootEnd (nodes : List Node) :
    readRoot? [rootOpen.addAll nodes] "</xrds:XRDS>".toList =
      some (.element ⟨some rootSpace, "XRDS"⟩ [] nodes, []) := by
  -- The only open element is the root, and the name of the tag is its name.
  have root : Spells "xrds:XRDS" ⟨"xrds", "XRDS"⟩ := by decide
  have piece := readPiece?_finish root []
  have node : (rootOpen.addAll nodes).node = .element ⟨some rootSpace, "XRDS"⟩ [] nodes := by
    simp [Open.node, Open.addAll, rootOpen]
  refine readRoot?_of_complete piece ?_
  rw [← node]
  rfl

/-- Behind the root nothing is left. -/
theorem skipAside?_nil : skipAside? [] = some [] := by
  rw [skipAside?]
  rfl

/-- What stands between the tags of the root is read as its content. -/
theorem content_bodyText {services : List (List Text × List Text)}
    (plain : ∀ service ∈ services, ∀ value ∈ service.1 ++ service.2, IsPlain value) :
    Content xrdSpace (bodyText services) (rootNodes services) := by
  -- Three children: a line end, the description and a line end.
  have newline : IsPlain "\n" := by decide
  have last : Content xrdSpace "\n".toList [.text "\n"] :=
    .run (by decide) newline (by simp) .nil
  refine .run (by decide) newline ?_ (.element (by decide) (content_services plain) last)
  intro c start
  rw [elementText_append] at start
  exact (Option.some.inj start).symm

/-- A document is read as its root. -/
theorem parse?_documentText {services : List (List Text × List Text)}
    (plain : ∀ service ∈ services, ∀ value ∈ service.1 ++ service.2, IsPlain value) :
    parse? (documentText services) =
      some (.element ⟨some rootSpace, "XRDS"⟩ [] (rootNodes services)) := by
  -- Header, root and rest are read one after the other.
  have read : readRoot? [] (rootStart ++ (bodyText services ++ "</xrds:XRDS>".toList)) =
      some (.element ⟨some rootSpace, "XRDS"⟩ [] (rootNodes services), []) := by
    rw [readRoot?_rootStart]
    exact (readRoot?_of_content (content_bodyText plain) rootOpen rfl (.inr nofun) []
      "xrds:XRDS>".toList).trans (readRoot?_rootEnd _)
  unfold parse?
  rw [documentText_eq, skipHeader?_declarationText]
  change (readRoot? [] _).bind _ = _
  rw [read]
  change (skipAside? []).bind _ = _
  rw [skipAside?_nil]
  rfl

end Document

section Nodes

variable {base sought value : Text} {values types uris : List Text}

/-- An element of a description is the element of its own name. -/
theorem isElement_elementNode (base sought : Text) (children : List Node) :
    (elementNode base children).isElement xrdSpace sought = decide (base = sought) := by
  simp [elementNode, Node.isElement]

/-- It is in no other namespace. -/
theorem isElement_elementNode_openid (base sought : Text) (children : List Node) :
    (elementNode base children).isElement openidSpace sought = false := by
  -- The namespaces differ.
  have apart : xrdSpace ≠ openidSpace := by decide
  simp [elementNode, Node.isElement, apart]

/-- Elements of one name are found by it, all of them, and by no other. -/
theorem filter_elementNodes {ι : Type} (base sought : Text) (children : ι → List Node)
    (items : List ι) :
    (items.map fun item => elementNode base (children item)).filter
        (Node.isElement xrdSpace sought) =
      if base = sought then items.map fun item => elementNode base (children item) else [] := by
  -- All of the elements have the one name, which is the one sought or not.
  split
  · rename_i same
    refine List.filter_eq_self.mpr fun node inside => ?_
    obtain ⟨item, _, rfl⟩ := List.mem_map.mp inside
    rw [isElement_elementNode, decide_eq_true same]
  · rename_i apart
    refine List.filter_eq_nil_iff.mpr fun node inside => ?_
    obtain ⟨item, _, rfl⟩ := List.mem_map.mp inside
    rw [isElement_elementNode, decide_eq_false apart]
    exact Bool.false_ne_true

/-- Text is no element. -/
theorem isElement_text (space base content : Text) :
    ¬Node.isElement space base (.text content) = true := by
  simp [Node.isElement]

/-- Line ends between elements are passed over. -/
theorem filter_lines (space base : Text) (nodes : List Node) :
    (lines nodes).filter (Node.isElement space base) =
      nodes.filter (Node.isElement space base) := by
  -- By induction on the nodes; a text is no element.
  induction nodes with
  | nil => rfl
  | cons node nodes ih =>
    rw [lines, List.filter_cons_of_neg (isElement_text _ _ _), List.filter_cons, ih,
      List.filter_cons]

/-- The text of an element is the one that it was made of. -/
theorem textOf_leafNode (base : Text) (writable : IsWritable value) :
    textOf (leafNode base value) = value := by
  -- The text is the first child, and no blank stands at its ends.
  have leading : (leafNode base value).leadingText = value := by
    by_cases empty : value = []
    · rw [leafNode, if_pos empty, empty]
      rfl
    · rw [leafNode, if_neg empty]
      rfl
  rw [textOf, leading, Text.trim_eq_self_of_ends writable.leads writable.ends]

/-- So are all texts of elements. -/
theorem map_textOf_leaves (base : Text) (writable : ∀ value ∈ values, IsWritable value) :
    (values.map (leafNode base)).map textOf = values := by
  -- Element by element.
  rw [List.map_map]
  exact (List.map_congr_left fun value inside => textOf_leafNode base (writable value inside)).trans
    (List.map_id values)

/-- The elements of a name among those of a service. -/
theorem childrenNamed_serviceNode (sought : Text) (types uris : List Text) :
    (serviceNode types uris).childrenNamed xrdSpace sought =
      (if "Type" = sought then types.map (leafNode "Type") else []) ++
        if "URI" = sought then uris.map (leafNode "URI") else [] :=
  -- The types stand in front of the URIs, and either list is found as a whole.
  (List.filter_append ..).trans (congrArg₂ (· ++ ·) (filter_elementNodes "Type" sought _ types)
    (filter_elementNodes "URI" sought _ uris))

/-- None of them is in another namespace. -/
theorem childrenNamed_serviceNode_openid (sought : Text) (types uris : List Text) :
    (serviceNode types uris).childrenNamed openidSpace sought = [] := by
  -- Every child is an element of the one namespace.
  refine List.filter_eq_nil_iff.mpr fun node inside => ?_
  obtain ⟨base, value, rfl⟩ : ∃ base value, leafNode base value = node := by
    rcases List.mem_append.mp inside with type | uri
    · obtain ⟨value, _, rfl⟩ := List.mem_map.mp type
      exact ⟨_, value, rfl⟩
    · obtain ⟨value, _, rfl⟩ := List.mem_map.mp uri
      exact ⟨_, value, rfl⟩
  rw [leafNode, isElement_elementNode_openid]
  exact Bool.false_ne_true

/-- A service is read back from its element. -/
theorem serviceOf_serviceNode (writable : ∀ value ∈ types ++ uris, IsWritable value) :
    serviceOf (serviceNode types uris) = plainService types uris := by
  -- Types and URIs are found by their names, and the other lists are empty.
  obtain ⟨writable_types, writable_uris⟩ := List.forall_mem_append.mp writable
  have read_types : textsOf xrdSpace "Type" (serviceNode types uris) = types := by
    rw [textsOf, childrenNamed_serviceNode, if_pos rfl, if_neg (by decide), List.append_nil,
      map_textOf_leaves _ writable_types]
  have read_uris : ((serviceNode types uris).childrenNamed xrdSpace "URI").map uriOf =
      uris.map fun uri => ⟨none, uri⟩ := by
    rw [childrenNamed_serviceNode, if_neg (by decide), if_pos rfl, List.nil_append, List.map_map]
    refine List.map_congr_left fun uri inside => ?_
    exact congrArg (ServiceUri.mk none) (textOf_leafNode "URI" (writable_uris uri inside))
  -- The element has no children of any other name.
  have no_ids : textsOf xrdSpace "LocalID" (serviceNode types uris) = [] := by
    rw [textsOf, childrenNamed_serviceNode, if_neg (by decide), if_neg (by decide)]
    rfl
  have no_delegates : textsOf openidSpace "Delegate" (serviceNode types uris) = [] := by
    rw [textsOf, childrenNamed_serviceNode_openid]
    rfl
  unfold serviceOf
  rw [read_types, read_uris, no_ids, no_delegates]
  rfl

/-- A description of services on lines of their own is read as those services. -/
theorem xrdOf_serviceNodes {services : List (List Text × List Text)}
    (writable : ∀ service ∈ services, ∀ value ∈ service.1 ++ service.2, IsWritable value) :
    xrdOf (elementNode "XRD" (lines (serviceNodes services))) =
      ⟨none, services.map fun service => plainService service.1 service.2⟩ := by
  -- Among the lines the services are all that is found.
  have found (sought : Text) :
      (elementNode "XRD" (lines (serviceNodes services))).childrenNamed xrdSpace sought =
        if "Service" = sought then serviceNodes services else [] :=
    (filter_lines ..).trans (filter_elementNodes "Service" sought _ services)
  unfold xrdOf textsOf
  rw [found, found, if_neg (by decide), if_pos rfl, serviceNodes, List.map_map]
  refine congrArg (Xrd.mk none) (List.map_congr_left fun service inside => ?_)
  exact serviceOf_serviceNode (writable service inside)

/-- The root has one description. -/
theorem childrenNamed_root (services : List (List Text × List Text)) :
    (Node.element ⟨some rootSpace, "XRDS"⟩ [] (rootNodes services)).childrenNamed xrdSpace "XRD" =
      [elementNode "XRD" (lines (serviceNodes services))] := by
  -- The other two children are line ends.
  have one := isElement_elementNode "XRD" "XRD" (lines (serviceNodes services))
  rw [Node.childrenNamed, Node.children, rootNodes, List.filter_cons_of_neg (isElement_text _ _ _),
    List.filter_cons_of_pos (by rw [one, decide_eq_true rfl]),
    List.filter_cons_of_neg (isElement_text _ _ _), List.filter_nil]

end Nodes

/-- The document of some services is read as one description without a CanonicalID, which has the
same services in the same order: their types and URIs, and nothing else. -/
theorem parse_documentText {services : List (List Text × List Text)}
    (writable : ∀ service ∈ services, ∀ value ∈ service.1 ++ service.2, IsWritable value) :
    parse (documentText services) =
      .ok ⟨[⟨none, services.map fun service => plainService service.1 service.2⟩]⟩ := by
  -- The root is read first, and then its description.
  have root := parse?_documentText fun service inside value part =>
    (writable service inside value part).toIsPlain
  have named : (Node.element ⟨some rootSpace, "XRDS"⟩ [] (rootNodes services)).isElement rootSpace
      "XRDS" = true := by simp [Node.isElement]
  simp only [parse, root, named, if_true, childrenNamed_root, List.map_cons, List.map_nil,
    xrdOf_serviceNodes writable]

/-- A service with an empty type among others, and one with nothing at all. -/
theorem parse_documentText_two :
    let services : List (List Text × List Text) :=
      [(["http://openid.net/signon/1.1", "", "a > b ]]"], ["https://example.com/op?a=1;b='2'"]),
        ([], [])]
    (∀ service ∈ services, ∀ value ∈ service.1 ++ service.2, IsWritable value) ∧
      parse (documentText services) = .ok ⟨[⟨none,
        [⟨none, ["http://openid.net/signon/1.1", "", "a > b ]]"],
          [⟨none, "https://example.com/op?a=1;b='2'"⟩], [], []⟩, ⟨none, [], [], [], []⟩]⟩]⟩ := by
  intro services
  -- All of these characters may stand in character data.
  have writable : ∀ service ∈ services, ∀ value ∈ service.1 ++ service.2, IsWritable value := by
    decide +kernel
  exact ⟨writable, parse_documentText writable⟩

end RelyingParty.Xrds
