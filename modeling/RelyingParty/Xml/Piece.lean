import RelyingParty.Xml.CharacterData

/-! The pieces of a document, read one at a time. -/

namespace RelyingParty.Xml

/-- A piece of a document: the start or the end of an element, characters, or what is no content. -/
inductive Piece where
  | start (name : WrittenName) (attributes : List (WrittenName × Text)) (closed : Bool)
  | finish (name : WrittenName)
  | characters (text : Text)
  | aside
  deriving DecidableEq, Repr

/-- The text without leading blanks. -/
def skipSpace (text : Text) : Text := text.dropWhile isSpace

theorem skipSpace_length_le (text : Text) : (skipSpace text).length ≤ text.length :=
  -- What is skipped is a prefix.
  Text.dropWhile_length_le _ _

/-- Whether a text may stand in quotes as a value: no opening angle bracket may. -/
def isQuotable (value : Text) : Bool := value.all isContentChar && !value.contains '<'

/-- A value as it stands in quotes, and what follows it. -/
def readQuoted? (text : Text) : Option (Text × Text) :=
  match text with
  | [] => none
  | quote :: rest =>
    if quote = '"' ∨ quote = '\'' then
      -- The other kind of quote may stand within the value.
      (Text.splitFirst quote rest).filter fun (value, _) => isQuotable value
    else none

/-- The text behind an equals sign with blanks around it. -/
def readEquals? (text : Text) : Option Text :=
  match skipSpace text with
  | '=' :: rest => some (skipSpace rest)
  | _ => none

/-- An attribute with its value as written, and what follows it. -/
def readAttribute? (text : Text) : Option ((WrittenName × Text) × Text) :=
  (readName? text).bind fun (name, rest) =>
    (readEquals? rest).bind fun rest =>
      (readQuoted? rest).map fun (value, rest) => ((name, value), rest)

theorem readQuoted?_length {text value rest : Text} (read : readQuoted? text = some (value, rest)) :
    rest.length ≤ text.length := by
  -- What follows the value follows its closing quote.
  unfold readQuoted? at read
  split at read
  · simp at read
  · split at read
    · have := Text.splitFirst_length (Option.filter_eq_some_iff.mp read).1
      simp
      omega
    · simp at read

theorem readEquals?_length {text rest : Text} (read : readEquals? text = some rest) :
    rest.length ≤ text.length := by
  -- The equals sign and blanks are skipped.
  unfold readEquals? at read
  split at read
  · rename_i tail equals
    have outer := skipSpace_length_le text
    have inner := skipSpace_length_le tail
    simp at read
    subst read
    rw [equals] at outer
    simp at outer
    omega
  · simp at read

theorem readAttribute?_length {text rest : Text} {entry : WrittenName × Text}
    (read : readAttribute? text = some (entry, rest)) : rest.length < text.length := by
  -- The name alone has at least one character.
  obtain ⟨⟨name, behind⟩, named, equals⟩ := Option.bind_eq_some_iff.mp read
  obtain ⟨start, equalled, quoted⟩ := Option.bind_eq_some_iff.mp equals
  obtain ⟨⟨value, tail⟩, valued, same⟩ := Option.map_eq_some_iff.mp quoted
  obtain rfl : tail = rest := congrArg Prod.snd same
  have := readName?_length named
  have : start.length ≤ behind.length := readEquals?_length equalled
  have := readQuoted?_length valued
  omega

/-- The attributes of a start tag, whether the element is closed with it, and what follows; each
attribute stands behind a blank. -/
def readAttributes? (text : Text) : Option (List (WrittenName × Text) × Bool × Text) :=
  match skipSpace text with
  | '>' :: rest => some ([], false, rest)
  | '/' :: '>' :: rest => some ([], true, rest)
  | _ =>
    if text.head?.any isSpace then
      match _read : readAttribute? (skipSpace text) with
      | some (entry, rest) =>
        (readAttributes? rest).map fun (entries, more) => (entry :: entries, more)
      | none => none
    else none
termination_by text.length
decreasing_by
  have := readAttribute?_length _read
  have := skipSpace_length_le text
  omega

theorem readAttributes?_length {text rest : Text} {attributes : List (WrittenName × Text)}
    {closed : Bool} (read : readAttributes? text = some (attributes, closed, rest)) :
    rest.length < text.length := by
  -- The closing bracket is behind all attributes.
  fun_induction readAttributes? text generalizing attributes with
  | case1 text tail bracket =>
    have := skipSpace_length_le text
    rw [bracket] at this
    simp at read this
    simp [← read.2.2]
    omega
  | case2 text tail bracket =>
    have := skipSpace_length_le text
    rw [bracket] at this
    simp at read this
    simp [← read.2.2]
    omega
  | case3 text _ entry behind one _ _ ih =>
    -- One attribute more makes the rest only shorter.
    obtain ⟨⟨more, ended⟩, tail, same⟩ := Option.map_eq_some_iff.mp read
    obtain rfl : ended = (closed, rest) := congrArg Prod.snd same
    have := ih tail
    have := readAttribute?_length one
    have := skipSpace_length_le text
    omega
  | case4 => simp at read
  | case5 => simp at read

/-- An attribute with the text of its value. -/
def valued? (entry : WrittenName × Text) : Option (WrittenName × Text) :=
  (attributeData? entry.2).map (entry.1, ·)

/-- A start tag behind its opening bracket, and what follows it. -/
def readStart? (text : Text) : Option (Piece × Text) :=
  (readName? text).bind fun (name, rest) =>
    (readAttributes? rest).bind fun (attributes, closed, rest) =>
      (attributes.mapM valued?).map (.start name · closed, rest)

/-- An end tag behind its bracket and slash, and what follows it. -/
def readFinish? (text : Text) : Option (Piece × Text) :=
  (readName? text).bind fun (name, rest) =>
    (Text.dropStart? ">" (skipSpace rest)).map (.finish name, ·)

/-- A comment behind its opening mark, and what follows it; two hyphens may not stand in it, nor one
at its end. -/
def readComment? (text : Text) : Option (Piece × Text) :=
  (Text.splitAt? "-->" text).bind fun (comment, rest) =>
    if comment.all isContentChar ∧ !Text.includes "--" comment ∧ !Text.endsWith "-" comment then
      some (.aside, rest)
    else none

/-- An instruction behind its opening mark, and what follows it. -/
def readInstruction? (text : Text) : Option (Piece × Text) :=
  if Text.startsWith "xml " text ∨ !beginsName text then none
  else
    (Text.splitAt? "?>" (skipSpace (text.dropWhile isNameChar))).bind fun (content, rest) =>
      if content.all isContentChar then some (.aside, rest) else none

/-- A CDATA section behind its opening mark, and what follows it. -/
def readSection? (text : Text) : Option (Piece × Text) :=
  (Text.splitAt? "]]>" text).bind fun (content, rest) =>
    (sectionData? content).map (.characters ·, rest)

/-- The characters before the next opening bracket. -/
def readCharacters? (text : Text) : Option (Piece × Text) :=
  (characterData? (text.takeWhile (· ≠ '<'))).map (.characters ·, text.dropWhile (· ≠ '<'))

/-- The first piece of a text, and what follows it. -/
def readPiece? (text : Text) : Option (Piece × Text) :=
  match text with
  | [] => none
  | '<' :: '!' :: '-' :: '-' :: rest => readComment? rest
  -- Of the rest that begins so only sections are read; document types are refused.
  | '<' :: '!' :: rest => (Text.dropStart? "[CDATA[" rest).bind readSection?
  | '<' :: '?' :: rest => readInstruction? rest
  | '<' :: '/' :: rest => readFinish? rest
  | '<' :: rest => readStart? rest
  | _ => readCharacters? text

theorem readStart?_length {text rest : Text} {piece : Piece}
    (read : readStart? text = some (piece, rest)) : rest.length < text.length := by
  -- The name alone has at least one character.
  obtain ⟨⟨name, behind⟩, named, tail⟩ := Option.bind_eq_some_iff.mp read
  obtain ⟨⟨attributes, closed, left⟩, ended, valued⟩ := Option.bind_eq_some_iff.mp tail
  obtain ⟨entries, _, same⟩ := Option.map_eq_some_iff.mp valued
  obtain rfl : left = rest := congrArg Prod.snd same
  have := readName?_length named
  have := readAttributes?_length ended
  omega

theorem readFinish?_length {text rest : Text} {piece : Piece}
    (read : readFinish? text = some (piece, rest)) : rest.length < text.length := by
  -- The name alone has at least one character.
  obtain ⟨⟨name, behind⟩, named, tail⟩ := Option.bind_eq_some_iff.mp read
  obtain ⟨left, closed, same⟩ := Option.map_eq_some_iff.mp tail
  obtain rfl : left = rest := congrArg Prod.snd same
  have := readName?_length named
  have := Text.dropStart?_length closed
  have := skipSpace_length_le behind
  omega

theorem readComment?_length {text rest : Text} {piece : Piece}
    (read : readComment? text = some (piece, rest)) : rest.length < text.length := by
  -- What follows the comment follows its closing mark.
  obtain ⟨⟨comment, behind⟩, split, valid⟩ := Option.bind_eq_some_iff.mp read
  have := Text.splitAt?_length split
  simp only at valid
  split at valid
  · simp at valid this
    rw [← valid.2]
    omega
  · simp at valid

theorem readInstruction?_length {text rest : Text} {piece : Piece}
    (read : readInstruction? text = some (piece, rest)) : rest.length < text.length := by
  -- What follows the instruction follows its closing mark.
  unfold readInstruction? at read
  split at read
  · simp at read
  · obtain ⟨⟨content, behind⟩, split, valid⟩ := Option.bind_eq_some_iff.mp read
    have := Text.splitAt?_length split
    have := skipSpace_length_le (text.dropWhile isNameChar)
    have := Text.dropWhile_length_le isNameChar text
    simp only at valid
    split at valid
    · simp at valid
      rw [← valid.2]
      simp_all
      omega
    · simp at valid

theorem readSection?_length {text rest : Text} {piece : Piece}
    (read : readSection? text = some (piece, rest)) : rest.length < text.length := by
  -- What follows the section follows its closing mark.
  obtain ⟨⟨content, behind⟩, split, valid⟩ := Option.bind_eq_some_iff.mp read
  have := Text.splitAt?_length split
  obtain ⟨data, _, same⟩ := Option.map_eq_some_iff.mp valid
  obtain rfl : behind = rest := congrArg Prod.snd same
  simp at this
  omega

theorem readCharacters?_length {c : Char} {text rest : Text} {piece : Piece} (other : c ≠ '<')
    (read : readCharacters? (c :: text) = some (piece, rest)) :
    rest.length < (c :: text).length := by
  -- At least the first character is taken.
  obtain ⟨data, _, same⟩ := Option.map_eq_some_iff.mp read
  have same : (c :: text).dropWhile (· ≠ '<') = rest := congrArg Prod.snd same
  have := Text.dropWhile_length_le (· ≠ '<') text
  simp [other] at same
  simp [← same]
  simp at this
  omega

theorem readPiece?_length {text rest : Text} {piece : Piece}
    (read : readPiece? text = some (piece, rest)) : rest.length < text.length := by
  -- Every kind of piece takes at least one character.
  unfold readPiece? at read
  split at read
  · simp at read
  · have := readComment?_length read
    simp
    omega
  · obtain ⟨content, dropped, inner⟩ := Option.bind_eq_some_iff.mp read
    have := Text.dropStart?_length dropped
    have := readSection?_length inner
    simp
    omega
  · have := readInstruction?_length read
    simp
    omega
  · have := readFinish?_length read
    simp
    omega
  · have := readStart?_length read
    simp
    omega
  · -- Characters are left, which do not begin with an opening bracket.
    rename_i empty _ _ _ _ open_
    match text with
    | [] => exact absurd rfl empty
    | c :: tail => exact readCharacters?_length (fun same => open_ tail (same ▸ rfl)) read

end RelyingParty.Xml
