import RelyingParty.Text

/-! The characters and names of XML. -/

namespace RelyingParty.Xml

/-- The blanks of XML. -/
def isSpace (c : Char) : Bool := c = ' ' || c = '\t' || c = '\n' || c = '\r'

/-- The characters a document may hold. -/
def isContentChar (c : Char) : Bool :=
  isSpace c || (' ' ≤ c && c.toNat != 0xFFFE && c.toNat != 0xFFFF)

/-- Runs of characters outside of ASCII that may begin a name. -/
def nameStartRuns : List (Nat × Nat) :=
  [(0xC0, 0xD6), (0xD8, 0xF6), (0xF8, 0x2FF), (0x370, 0x37D), (0x37F, 0x1FFF), (0x200C, 0x200D),
    (0x2070, 0x218F), (0x2C00, 0x2FEF), (0x3001, 0xD7FF), (0xF900, 0xFDCF), (0xFDF0, 0xFFFD),
    (0x10000, 0xEFFFF)]

/-- Runs of characters outside of ASCII that may stand in a name but not begin it. -/
def nameRestRuns : List (Nat × Nat) := [(0xB7, 0xB7), (0x300, 0x36F), (0x203F, 0x2040)]

/-- Whether a character may begin a name. -/
def isNameStart (c : Char) : Bool :=
  c.isAlpha || c = ':' || c = '_' || Text.isWithin nameStartRuns c

/-- Whether a character may stand in a name. -/
def isNameChar (c : Char) : Bool :=
  isNameStart c || c.isDigit || c = '-' || c = '.' || Text.isWithin nameRestRuns c

/-- A name as written: what stands before its colon, empty without one, and what follows. -/
structure WrittenName where
  lead : Text
  base : Text
  deriving DecidableEq, Repr

/-- A name in its namespace. -/
structure Name where
  space : Option Text
  base : Text
  deriving DecidableEq, Repr

/-- Whether a text begins as a name does. -/
def beginsName (text : Text) : Bool := text.head?.any isNameStart

/-- Reads the written form of a name; at most one colon is allowed. -/
def WrittenName.ofText? (run : Text) : Option WrittenName :=
  match Text.splitFirst ':' run with
  | none => if beginsName run then some ⟨[], run⟩ else none
  | some (lead, base) =>
    if !base.contains ':' && beginsName base && (lead.isEmpty || beginsName lead) then
      some ⟨lead, base⟩
    else none

/-- Reads a name with an optional colon, and what follows it. -/
def readName? (text : Text) : Option (WrittenName × Text) :=
  (WrittenName.ofText? (text.takeWhile isNameChar)).map (·, text.dropWhile isNameChar)

theorem WrittenName.ofText?_ne_nil {run : Text} {name : WrittenName}
    (read : WrittenName.ofText? run = some name) : run ≠ [] := by
  -- An empty run begins no name.
  rintro rfl
  simp [WrittenName.ofText?, Text.splitFirst, beginsName] at read

theorem readName?_length {text rest : Text} {name : WrittenName}
    (read : readName? text = some (name, rest)) : rest.length < text.length := by
  -- A name has at least one character.
  obtain ⟨found, named, same⟩ := Option.map_eq_some_iff.mp read
  obtain rfl : text.dropWhile isNameChar = rest := congrArg Prod.snd same
  have taken := List.length_pos_iff.mpr (WrittenName.ofText?_ne_nil named)
  have parts := congrArg List.length (List.takeWhile_append_dropWhile (p := isNameChar) (l := text))
  simp only [List.length_append] at parts
  omega

end RelyingParty.Xml
