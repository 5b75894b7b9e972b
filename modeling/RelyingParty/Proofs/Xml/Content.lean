import RelyingParty.Proofs.Text
import RelyingParty.Proofs.Text.Parts
import RelyingParty.Xml.Document
import RelyingParty.Xrds.Writer

/-! What is written into an element as plain text and as elements without attributes is read back as
its children. -/

namespace RelyingParty.Xml

section Data

variable {text : Text}

/-- Whether a text stands for itself as character data. -/
structure IsPlain (text : Text) : Prop where
  content : text.all isContentChar = true
  unopened : '<' ∉ text
  literal : '&' ∉ text
  joined : '\r' ∉ text
  unclosed : ¬"]]>".toList <:+: text

instance (text : Text) : Decidable (IsPlain text) :=
  decidable_of_iff
    (text.all isContentChar = true ∧ '<' ∉ text ∧ '&' ∉ text ∧ '\r' ∉ text ∧
      ¬Text.includes "]]>" text = true)
    ⟨fun ⟨content, unopened, literal, joined, unclosed⟩ =>
      ⟨content, unopened, literal, joined, mt Text.includes_eq_true_iff.mpr unclosed⟩,
    fun plain => ⟨plain.content, plain.unopened, plain.literal, plain.joined,
      mt Text.includes_eq_true_iff.mp plain.unclosed⟩⟩

/-- A text without a reference is its own data. -/
theorem dataChars?_of_literal (literal : '&' ∉ text) : dataChars? text = some (literals text) := by
  -- A text without the mark is a single part, and the first part is literal.
  have whole : Text.splitAll '&' text = [text] := by
    rw [Text.splitAll_eq_splitOn]
    exact List.splitOn_eq_singleton literal
  unfold dataChars?
  rw [whole]
  exact congrArg some (List.append_nil _)

/-- Behind literal characters nothing is shielded. -/
theorem shieldFrom_literals (text : Text) : shieldFrom false (literals text) = literals text := by
  -- Only what comes out of a reference is shielded.
  induction text with
  | nil => rfl
  | cons c rest ih => exact congrArg (⟨c, true⟩ :: ·) ih

/-- Lines without a carriage return stay as they are. -/
theorem joinLines_literals (joined : '\r' ∉ text) : joinLines (literals text) = text := by
  -- By induction on the text: no character needs to be joined with the next one.
  induction text with
  | nil => rfl
  | cons c rest ih =>
    have other : c ≠ '\r' := (List.ne_of_not_mem_cons joined).symm
    have later := ih (List.not_mem_of_not_mem_cons joined)
    cases rest with
    | nil => simp [literals, joinLines, other]
    | cons d rest =>
      simp only [literals, List.map_cons, joinLines, other, false_and, if_false]
      exact congrArg (c :: ·) later

/-- A plain text is its own character data. -/
theorem characterData?_of_isPlain (plain : IsPlain text) : characterData? text = some text := by
  -- Every condition of the reader is one of plain texts, and no step changes them.
  have unclosed : Text.includes "]]>" text = false :=
    eq_false_of_ne_true (mt Text.includes_eq_true_iff.mp plain.unclosed)
  unfold characterData?
  rw [if_pos ⟨plain.content, by rw [unclosed]; rfl⟩,
    dataChars?_of_literal plain.literal, Option.map_some, shieldFrom_literals,
    joinLines_literals plain.joined]

end Data

section Pieces

variable {text rest : Text} {piece : Piece} {outer inner : List Open}

/-- A piece after which elements are still open is passed over. -/
theorem readRoot?_of_inside (read : readPiece? text = some (piece, rest))
    (step : Progress.step? outer piece = some (.inside inner)) :
    readRoot? outer text = readRoot? inner rest := by
  -- The piece is read, and the progress says to go on.
  rw [readRoot?.eq_def outer text]
  split
  · rename_i refused
    cases refused.symm.trans read
  · rename_i found
    cases found.symm.trans read
    simp only [step]

/-- A piece that completes the root is the last one of it. -/
theorem readRoot?_of_complete {root : Node} (read : readPiece? text = some (piece, rest))
    (step : Progress.step? outer piece = some (.complete root)) :
    readRoot? outer text = some (root, rest) := by
  -- The piece is read, and the progress says that it was the last.
  rw [readRoot?.eq_def outer text]
  split
  · rename_i refused
    cases refused.symm.trans read
  · rename_i found
    cases found.symm.trans read
    simp only [step]

/-- A text that does not begin with a bracket begins with characters. -/
theorem readPiece?_of_head (some_text : text ≠ []) (other : text.head? ≠ some '<') :
    readPiece? text = readCharacters? text := by
  unfold readPiece?
  split
  · exact absurd rfl some_text
  -- Every other kind of piece begins with a bracket.
  · exact absurd rfl other
  · exact absurd rfl other
  · exact absurd rfl other
  · exact absurd rfl other
  · exact absurd rfl other
  · rfl

/-- Characters are read up to the bracket that opens the next piece. -/
theorem readPiece?_characters (some_text : text ≠ []) (plain : IsPlain text)
    (stops : rest.head? = some '<') :
    readPiece? (text ++ rest) = some (.characters text, rest) := by
  -- The text is taken up to the bracket, and it is its own data.
  have other : ∀ c ∈ text, decide (c ≠ '<') = true := fun c inside =>
    decide_eq_true (ne_of_mem_of_not_mem inside plain.unopened)
  have ends : ∀ c ∈ rest.head?, decide (c ≠ '<') = false := by simp [stops]
  obtain ⟨taken, left⟩ := Text.span_append other ends
  have first : (text ++ rest).head? ≠ some '<' := by
    rw [List.head?_append_of_ne_nil _ some_text]
    exact fun same => plain.unopened (List.mem_of_head? same)
  rw [readPiece?_of_head (List.append_ne_nil_of_left_ne_nil some_text _) first, readCharacters?,
    taken, left, characterData?_of_isPlain plain, Option.map_some]

/-- A name behind a bracket begins an element. -/
theorem readPiece?_of_beginsName (begins : beginsName text = true) :
    readPiece? ('<' :: text) = readStart? text := by
  have other {c : Char} {rest : Text} (apart : isNameStart c = false) : text ≠ c :: rest := by
    rintro rfl
    exact Bool.false_ne_true (apart.symm.trans begins)
  unfold readPiece?
  split
  · rename_i same
    cases same
  -- No other kind of piece goes on with the start of a name.
  · rename_i same
    exact absurd (List.cons.inj same).2 (other (by decide))
  · rename_i same
    exact absurd (List.cons.inj same).2 (other (by decide))
  · rename_i same
    exact absurd (List.cons.inj same).2 (other (by decide))
  · rename_i same
    exact absurd (List.cons.inj same).2 (other (by decide))
  · rename_i same
    rw [(List.cons.inj same).2]
  · rename_i bare
    exact absurd rfl (bare text)

/-- The attributes of a start tag end at its closing bracket. -/
theorem readAttributes?_of_bracket (rest : Text) :
    readAttributes? ('>' :: rest) = some ([], false, rest) := by
  -- There is no attribute in front of the bracket.
  rw [readAttributes?]
  rfl

/-- An attribute behind a blank is followed by the others. -/
theorem readAttributes?_of_attribute {entry : WrittenName × Text} {left : Text}
    (blank : text.head?.any isSpace = true)
    (read : readAttribute? (skipSpace text) = some (entry, left)) :
    readAttributes? text = (readAttributes? left).map fun parts => (entry :: parts.1, parts.2) := by
  rw [readAttributes?.eq_def text]
  split
  -- An attribute does not begin as the end of the tag does.
  · rename_i same
    rw [same] at read
    cases read
  · rename_i same
    rw [same] at read
    cases read
  · rw [if_pos blank]
    split
    · rename_i found
      cases found.symm.trans read
      rfl
    · rename_i refused
      cases refused.symm.trans read

end Pieces

section Tags

/-- Whether a run of characters is the written form of a name. -/
structure Spells (run : Text) (name : WrittenName) : Prop where
  begins : beginsName run = true
  whole : run.all isNameChar = true
  read : WrittenName.ofText? run = some name

instance (run : Text) (name : WrittenName) : Decidable (Spells run name) :=
  decidable_of_iff
    (beginsName run = true ∧ run.all isNameChar = true ∧ WrittenName.ofText? run = some name)
    ⟨fun ⟨begins, whole, read⟩ => ⟨begins, whole, read⟩,
    fun named => ⟨named.begins, named.whole, named.read⟩⟩

variable {run rest : Text} {name : WrittenName}

/-- No blank is part of a name. -/
theorem isSpace_of_isNameChar {c : Char} (inside : isNameChar c = true) : isSpace c = false := by
  -- There are four blanks to try.
  refine eq_false_of_ne_true fun blank => ?_
  simp only [isSpace, Bool.or_eq_true, decide_eq_true_eq] at blank
  rcases blank with ((rfl | rfl) | rfl) | rfl <;> exact absurd inside (by decide)

/-- A name begins what it stands in front of. -/
theorem Spells.beginsName_append (named : Spells run name) (rest : Text) :
    beginsName (run ++ rest) = true := by
  -- The first character is that of the name.
  have begins := named.begins
  cases run with
  | nil => cases begins
  | cons c run => exact begins

/-- A name is read as far as its characters go. -/
theorem readName?_of_spells (named : Spells run name)
    (stops : rest.head?.any isNameChar = false) :
    readName? (run ++ rest) = some (name, rest) := by
  -- The name is taken up to the first character that is none of a name.
  have ends (c : Char) (start : c ∈ rest.head?) : isNameChar c = false := by
    rw [Option.mem_def.mp start] at stops
    exact stops
  obtain ⟨taken, left⟩ := Text.span_append (List.all_eq_true.mp named.whole) ends
  rw [readName?, taken, left, named.read, Option.map_some]

/-- A value in quotes is read up to the closing quote. -/
theorem readQuoted?_of_isQuotable {value : Text} (quotable : isQuotable value = true)
    (unquoted : '"' ∉ value) (rest : Text) :
    readQuoted? ('"' :: (value ++ '"' :: rest)) = some (value, rest) := by
  -- The value ends at the first quote, which is the one that was written.
  have split : Text.splitFirst '"' (value ++ '"' :: rest) = some (value, rest) :=
    Text.splitFirst_eq_some_iff.mpr ⟨rfl, unquoted⟩
  rw [readQuoted?, if_pos (.inl rfl), split]
  exact if_pos quotable

/-- An attribute as it stands behind a name. -/
def attributeText (run value : Text) : Text := ' ' :: (run ++ '=' :: '"' :: (value ++ ['"']))

/-- An attribute that is written behind a name is read. -/
theorem readAttributes?_attributeText {value : Text} (named : Spells run name)
    (quotable : isQuotable value = true) (unquoted : '"' ∉ value) (rest : Text) :
    readAttributes? (attributeText run value ++ rest) =
      (readAttributes? rest).map fun parts => ((name, value) :: parts.1, parts.2) := by
  -- A blank, a name, the sign and a value in quotes are read one after the other.
  have written : attributeText run value ++ rest =
      ' ' :: (run ++ '=' :: '"' :: (value ++ '"' :: rest)) := by
    simp only [attributeText, List.append_assoc, List.cons_append, List.nil_append]
  have bare : skipSpace (' ' :: (run ++ '=' :: '"' :: (value ++ '"' :: rest))) =
      run ++ '=' :: '"' :: (value ++ '"' :: rest) := by
    obtain ⟨c, run, rfl⟩ := List.exists_cons_of_ne_nil (WrittenName.ofText?_ne_nil named.read)
    have solid := isSpace_of_isNameChar (List.all_eq_true.mp named.whole c List.mem_cons_self)
    rw [skipSpace, List.dropWhile_cons_of_pos rfl, List.cons_append,
      List.dropWhile_cons_of_neg (by simp [solid])]
  have equals : readEquals? ('=' :: '"' :: (value ++ '"' :: rest)) =
      some ('"' :: (value ++ '"' :: rest)) := rfl
  rw [written]
  refine readAttributes?_of_attribute rfl ?_
  rw [bare, readAttribute?, readName?_of_spells named rfl, Option.bind_some]
  simp only [equals, Option.bind_some, readQuoted?_of_isQuotable quotable unquoted, Option.map_some]

/-- A bracket, a name and its attributes begin an element. -/
theorem readPiece?_start (named : Spells run name) (stops : rest.head?.any isNameChar = false)
    {attributes entries : List (WrittenName × Text)} {closed : Bool} {left : Text}
    (read : readAttributes? rest = some (attributes, closed, left))
    (valued : attributes.mapM valued? = some entries) :
    readPiece? ('<' :: (run ++ rest)) = some (.start name entries closed, left) := by
  -- The name is read first, and its attributes behind it.
  rw [readPiece?_of_beginsName (named.beginsName_append rest), readStart?,
    readName?_of_spells named stops, Option.bind_some]
  simp only [read, Option.bind_some, valued, Option.map_some]

/-- A bracket, a slash and a name end one. -/
theorem readPiece?_finish (named : Spells run name) (rest : Text) :
    readPiece? ('<' :: '/' :: (run ++ '>' :: rest)) = some (.finish name, rest) := by
  -- A slash behind the bracket is looked for first.
  have read : readFinish? (run ++ '>' :: rest) = some (.finish name, rest) := by
    rw [readFinish?, readName?_of_spells named rfl]
    rfl
  exact read

end Tags

section Elements

variable {base : Text}

/-- An element's text is its start, its content and its end. -/
theorem elementText_append (base content rest : Text) :
    Xrds.elementText base content ++ rest =
      '<' :: (base ++ '>' :: (content ++ '<' :: '/' :: (base ++ '>' :: rest))) := by
  simp [Xrds.elementText]

/-- An element without attributes that is open in a scope. -/
def Open.bare (scope : Scope) (space base : Text) : Open :=
  ⟨⟨[], base⟩, ⟨some space, base⟩, [], scope, []⟩

/-- An open element with some more children. -/
def Open.addAll (nodes : List Node) (top : Open) : Open :=
  { top with children := nodes.reverse ++ top.children }

/-- Children are added one after the other. -/
theorem Open.addAll_cons (node : Node) (nodes : List Node) (top : Open) :
    (top.addAll [node]).addAll nodes = top.addAll (node :: nodes) := by
  simp [Open.addAll]

/-- The start tag of an element without attributes opens it in the scope around it. -/
theorem start?_eq_bare {scope : Scope} {space : Text} (found : Scope.find? scope [] = some space)
    (base : Text) : Open.start? scope ⟨[], base⟩ [] = some (Open.bare scope space base) := by
  -- The name has no prefix, so its space is the one in force.
  have name : Scope.elementName? scope ⟨[], base⟩ = some ⟨some space, base⟩ := by
    unfold Scope.elementName?
    rw [if_neg (show ¬[] = "xmlns".toList by decide), found]
  change (Scope.elementName? scope ⟨[], base⟩).bind _ = _
  rw [name]
  rfl

/-- Its end tag places it with the children it got. -/
theorem step?_finish_bare (scope : Scope) (space base : Text) (children : List Node) (top : Open)
    (outer : List Open) :
    Progress.step? ((Open.bare scope space base).addAll children :: top :: outer)
        (.finish ⟨[], base⟩) =
      some (.inside (top.addAll [.element ⟨some space, base⟩ [] children] :: outer)) := by
  -- The names of both tags agree, and the children are those that were added.
  have node : ((Open.bare scope space base).addAll children).node =
      .element ⟨some space, base⟩ [] children := by
    simp [Open.node, Open.addAll, Open.bare]
  rw [Progress.step?, node]
  exact if_pos rfl

end Elements

/-- The content of an element, as text and as nodes: plain runs that are as long as they can be,
and elements without attributes, which are in the namespace around them. -/
inductive Content (space : Text) : Text → List Node → Prop where
  | nil : Content space [] []
  | run {text rest : Text} {nodes : List Node} (some_text : text ≠ []) (plain : IsPlain text)
      -- Two runs in a row would be one text.
      (stops : ∀ c ∈ rest.head?, c = '<') (later : Content space rest nodes) :
      Content space (text ++ rest) (.text text :: nodes)
  | element {base inner rest : Text} {children nodes : List Node} (named : Spells base ⟨[], base⟩)
      (inside : Content space inner children) (later : Content space rest nodes) :
      Content space (Xrds.elementText base inner ++ rest)
        (.element ⟨some space, base⟩ [] children :: nodes)

/-- Up to the end tag around it all content is read into the children of the open element. -/
theorem readRoot?_of_content {space text : Text} {nodes : List Node}
    (content : Content space text nodes) (top : Open)
    (found : Scope.find? top.scope [] = some space)
    (apart : (∀ c ∈ text.head?, c = '<') ∨ ∀ before, top.children.head? ≠ some (.text before))
    (outer : List Open) (more : Text) :
    readRoot? (top :: outer) (text ++ '<' :: '/' :: more) =
      readRoot? (top.addAll nodes :: outer) ('<' :: '/' :: more) := by
  -- Outside in and from left to right: an element's content is read before what follows its end.
  induction content generalizing top outer more with
  | nil => rfl
  | @run text rest nodes some_text plain stops _ later =>
    have front : (rest ++ '<' :: '/' :: more).head? = some '<' := by
      cases rest with
      | nil => rfl
      | cons c rest => exact congrArg some (stops c rfl)
    -- No bracket is in front, so the run is not joined with text that is already there.
    have lone : ∀ before, top.children.head? ≠ some (.text before) := by
      refine apart.resolve_left fun opens => ?_
      obtain ⟨c, text, rfl⟩ := List.exists_cons_of_ne_nil some_text
      exact plain.unopened (opens c rfl ▸ List.mem_cons_self)
    have added : top.addText text = top.addAll [.text text] := by
      unfold Open.addText
      split
      · rename_i before last joins
        exact absurd (congrArg List.head? joins) (lone before)
      · rfl
    rw [List.append_assoc, readRoot?_of_inside (readPiece?_characters some_text plain front) rfl,
      added, later (top.addAll [.text text]) found (.inl stops), Open.addAll_cons]
  | @element base inner rest children nodes named _ _ inside later =>
    -- The start tag opens an element in the scope of the one around it.
    have opened : Progress.step? (top :: outer) (.start ⟨[], base⟩ [] false) =
        some (.inside (Open.bare top.scope space base :: top :: outer)) := by
      rw [Progress.step?, scopeOf, start?_eq_bare found]
      rfl
    have started (rest : Text) := readPiece?_start named rfl (readAttributes?_of_bracket rest) rfl
    have alone : ∀ before, (Open.bare top.scope space base).children.head? ≠ some (.text before) :=
      nofun
    -- Behind the end tag the child read last is an element, so that text may follow.
    have behind : ∀ before,
        (top.addAll [.element ⟨some space, base⟩ [] children]).children.head? ≠
          some (.text before) := by
      simp [Open.addAll]
    rw [List.append_assoc, elementText_append, readRoot?_of_inside (started _) opened,
      inside (Open.bare top.scope space base) found (.inr alone),
      readRoot?_of_inside (readPiece?_finish named _) (step?_finish_bare ..),
      later (top.addAll [_]) found (.inr behind), Open.addAll_cons]

end RelyingParty.Xml
