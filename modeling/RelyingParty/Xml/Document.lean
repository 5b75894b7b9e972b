import RelyingParty.Xml.Piece

/-! Documents: elements in their namespaces, read from text. -/

namespace RelyingParty.Xml

/-- A node of a document: an element, text, or what is no content. -/
inductive Node where
  | element (name : Name) (attributes : List (Name × Text)) (children : List Node)
  | text (content : Text)
  | aside
  deriving Repr

namespace Node

mutual

/-- Whether two nodes are the same. -/
def decEq : (first second : Node) → Decidable (first = second)
  | element name attributes children, element name' attributes' children' =>
    if same : name = name' ∧ attributes = attributes' then
      match decEqList children children' with
      | isTrue all => isTrue (by rw [same.1, same.2, all])
      | isFalse differ => isFalse (by simp [differ])
    else isFalse (by rw [element.injEq]; exact fun whole => same ⟨whole.1, whole.2.1⟩)
  | text content, text content' =>
    if same : content = content' then isTrue (by rw [same]) else isFalse (by simp [same])
  | aside, aside => isTrue rfl
  | element .., text _ | element .., aside | text _, element .. | text _, aside
  | aside, element .. | aside, text _ => isFalse (by simp)

/-- Whether two lists of nodes are the same. -/
def decEqList : (first second : List Node) → Decidable (first = second)
  | [], [] => isTrue rfl
  | [], _ :: _ | _ :: _, [] => isFalse (by simp)
  | node :: rest, node' :: rest' =>
    match decEq node node', decEqList rest rest' with
    | isTrue same, isTrue all => isTrue (by rw [same, all])
    | isFalse differ, _ | _, isFalse differ => isFalse (by simp [differ])

end

instance : DecidableEq Node := decEq

/-- Whether a node is the element of a name. -/
def isElement (space base : Text) : Node → Bool
  | element name _ _ => name = ⟨some space, base⟩
  | _ => false

/-- The children of an element. -/
def children : Node → List Node
  | element _ _ children => children
  | _ => []

/-- The children that are elements of a name, in order. -/
def childrenNamed (space base : Text) (node : Node) : List Node :=
  node.children.filter (isElement space base)

/-- The value of an attribute in no namespace. -/
def attribute? (base : Text) : Node → Option Text
  | element _ attributes _ => (attributes.find? (·.1 = ⟨none, base⟩)).map Prod.snd
  | _ => none

/-- The text that an element begins with, empty when it begins with something else. -/
def leadingText (node : Node) : Text :=
  match node.children with
  | text content :: _ => content
  | _ => []

end Node

/-- Namespaces by lead, the innermost first; no lead is the empty one. -/
abbrev Scope := List (Text × Text)

/-- The namespace of the names of XML itself. -/
def xmlSpace : Text := "http://www.w3.org/XML/1998/namespace"

/-- The namespace of declarations of namespaces. -/
def declarationSpace : Text := "http://www.w3.org/2000/xmlns/"

/-- Whether an attribute declares a namespace. -/
def isDeclaration (entry : WrittenName × Text) : Bool :=
  entry.1.lead = "xmlns" || entry.1.base = "xmlns"

/-- The declaration of an attribute that is one: a lead and its namespace, nothing for the lead of
XML itself. Leads and namespaces of XML may not be bound otherwise. -/
def declaration? (entry : WrittenName × Text) : Option (List (Text × Text)) :=
  let (name, space) := entry
  if space = declarationSpace then none
  else if name.lead = "xmlns" then
    if name.base = "xml" then (if space = xmlSpace then some [] else none)
    else if space = xmlSpace then none
    else some [(name.base, space)]
  else if space = xmlSpace then none
  else some [([], space)]

/-- Whether no lead is declared twice; the default namespace may be. -/
def distinctLeads : List (Text × Text) → Bool
  | [] => true
  | (lead, _) :: rest => (lead.isEmpty || !rest.any (·.1 = lead)) && distinctLeads rest

/-- The declarations among the attributes of an element. -/
def declarations? (attributes : List (WrittenName × Text)) : Option Scope :=
  (((attributes.filter isDeclaration).mapM declaration?).map List.flatten).filter distinctLeads

/-- The namespace of a lead. -/
def Scope.find? (scope : Scope) (lead : Text) : Option Text :=
  (List.find? (·.1 = lead) scope).map Prod.snd

/-- The name of an element; without a lead it is in the default namespace, when there is one. -/
def Scope.elementName? (scope : Scope) (name : WrittenName) : Option Name :=
  if name.lead = "xmlns" then none
  else
    match Scope.find? scope name.lead with
    | some space => some ⟨some space, name.base⟩
    -- Only the empty lead needs no declaration.
    | none => if name.lead = [] then some ⟨none, name.base⟩ else none

/-- The name of an attribute; without a lead it is in no namespace. -/
def Scope.attributeName? (scope : Scope) (name : WrittenName) : Option Name :=
  if name.lead = [] then some ⟨none, name.base⟩
  else if name.lead = "xml" then some ⟨some xmlSpace, name.base⟩
  else (Scope.find? scope name.lead).map (⟨some ·, name.base⟩)

/-- Whether no name stands twice. -/
def distinctNames : List (Name × Text) → Bool
  | [] => true
  | (name, _) :: rest => !rest.any (·.1 = name) && distinctNames rest

/-- The attributes in their namespaces, without declarations. -/
def Scope.attributes? (scope : Scope) (attributes : List (WrittenName × Text)) :
    Option (List (Name × Text)) :=
  ((attributes.filter (!isDeclaration ·)).mapM fun entry =>
    (Scope.attributeName? scope entry.1).map (·, entry.2)).filter distinctNames

/-- An element that is being read, its children so far in reverse. -/
structure Open where
  written : WrittenName
  name : Name
  attributes : List (Name × Text)
  scope : Scope
  children : List Node
  deriving Repr

/-- The element that begins with a start tag inside a scope. -/
def Open.start? (scope : Scope) (written : WrittenName) (attributes : List (WrittenName × Text)) :
    Option Open := do
  let inner := (← declarations? attributes) ++ scope
  return ⟨written, ← Scope.elementName? inner written, ← Scope.attributes? inner attributes, inner,
    []⟩

/-- The node of an element whose end is read. -/
def Open.node (top : Open) : Node := .element top.name top.attributes top.children.reverse

/-- Adds text behind the children, joined with text that is already last. -/
def Open.addText (content : Text) (top : Open) : Open :=
  match top.children with
  | .text before :: rest => { top with children := .text (before ++ content) :: rest }
  | children => { top with children := .text content :: children }

/-- What is known of a document: its open elements, the innermost first, or its root. -/
inductive Progress where
  | inside (outer : List Open)
  | complete (root : Node)
  deriving Repr

/-- Puts a node behind the children of the innermost open element, or makes it the root. -/
def Progress.place (node : Node) : List Open → Progress
  | [] => complete node
  | top :: outer => inside ({ top with children := node :: top.children } :: outer)

/-- The scope of the innermost open element. -/
def scopeOf : List Open → Scope
  | [] => []
  | top :: _ => top.scope

/-- Goes on by a piece. -/
def Progress.step? (outer : List Open) (piece : Piece) : Option Progress :=
  match piece, outer with
  | .start written attributes closed, _ =>
    (Open.start? (scopeOf outer) written attributes).map fun top =>
      if closed then place top.node outer else inside (top :: outer)
  | .finish written, top :: outer =>
    -- Ends are matched as they are written, whatever the leads stand for.
    if written = top.written then some (place top.node outer) else none
  | .characters content, top :: outer => some (inside (top.addText content :: outer))
  | .aside, top :: outer => some (inside ({ top with children := .aside :: top.children } :: outer))
  -- Of the pieces only the start of the root is taken outside of any element.
  | _, [] => none

/-- Reads pieces until the root is complete, and what follows it. -/
def readRoot? (outer : List Open) (text : Text) : Option (Node × Text) :=
  match _read : readPiece? text with
  | none => none
  | some (piece, rest) =>
    match Progress.step? outer piece with
    | none => none
    | some (.complete root) => some (root, rest)
    | some (.inside outer) => readRoot? outer rest
termination_by text.length
decreasing_by exact readPiece?_length _read

/-- The text behind blanks, comments and instructions. -/
def skipAside? (text : Text) : Option Text :=
  let bare := skipSpace text
  if Text.startsWith "<!--" bare ∨ Text.startsWith "<?" bare then
    match _read : readPiece? (skipSpace text) with
    | some (_, rest) => skipAside? rest
    | none => none
  else some bare
termination_by text.length
decreasing_by
  have := readPiece?_length _read
  have := skipSpace_length_le text
  omega

/-- The text behind an attribute of the declaration that begins with a word. -/
def skipDeclared? (word text : Text) : Option Text :=
  if Text.startsWith word text then (readAttribute? text).map Prod.snd else none

/-- The text behind blanks; only the end of the declaration may follow without any. -/
def skipBetween? (text : Text) : Option Text :=
  if text.head?.any isSpace ∨ Text.startsWith "?>" text then some (skipSpace text) else none

/-- The text behind an attribute that may be left out, and the blanks behind it. -/
def skipOptional? (word text : Text) : Option Text :=
  if Text.startsWith word text then (skipDeclared? word text).bind skipBetween? else some text

/-- The text behind the declaration, its opening mark read. -/
def skipDeclaration? (text : Text) : Option Text := do
  -- The parts come in this order, and only the version is required.
  let text ← (skipDeclared? "version" (skipSpace text)).bind skipBetween?
  let text ← skipOptional? "encoding" text
  let text ←
    if Text.startsWith "standalone" text then skipDeclared? "standalone" text else some text
  Text.dropStart? "?>" (skipSpace text)

/-- The text behind a byte order mark and the declaration, both of which may be left out. -/
def skipHeader? (text : Text) : Option Text :=
  let text := (Text.dropStart? ['\uFEFF'] text).getD text
  match Text.dropStart? "<?xml " text with
  | some rest => skipDeclaration? rest
  | none => some text

/-- The root of a document. -/
def parse? (text : Text) : Option Node := do
  let text ← (skipHeader? text).bind skipAside?
  let (root, rest) ← readRoot? [] text
  if (← skipAside? rest) = [] then some root else none

end RelyingParty.Xml
