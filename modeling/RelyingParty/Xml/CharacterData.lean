import RelyingParty.Xml.Name

/-! Character data: references are replaced and line ends are made uniform. -/

namespace RelyingParty.Xml

/-- A character of the data, either literal or of a reference. -/
structure DataChar where
  char : Char
  literal : Bool
  deriving DecidableEq, Repr

/-- The characters of a text, all literal. -/
def literals (text : Text) : List DataChar := text.map (⟨·, true⟩)

/-- The character of a number; a number that is no character's gives the replacement character. -/
def numbered (n : Nat) : Char := if n.isValidChar then Char.ofNat n else '\uFFFD'

/-- The character of a numeric reference. -/
def numericReference? (base : Nat) (digits : Text) : Option Char :=
  (((Text.digits? base digits).filter (· < 0x100000000)).map numbered).filter isContentChar

/-- The character that a reference names, its ampersand and semicolon taken off. -/
def reference? (body : Text) : Option Char :=
  match body with
  | '#' :: 'x' :: digits => numericReference? 16 digits
  | '#' :: digits => numericReference? 10 digits
  | _ =>
    -- These five need no declaration.
    if body = "amp" then some '&'
    else if body = "lt" then some '<'
    else if body = "gt" then some '>'
    else if body = "quot" then some '"'
    else if body = "apos" then some '\''
    else none

/-- The characters of a text behind an ampersand, which begins a reference. -/
def referenceAnd? (text : Text) : Option (List DataChar) :=
  (Text.splitFirst ';' text).bind fun (body, rest) =>
    (reference? body).map fun c => ⟨c, false⟩ :: literals rest

/-- The characters of a text with its references replaced. -/
def dataChars? (text : Text) : Option (List DataChar) :=
  match Text.splitAll '&' text with
  | [] => some []
  | first :: rest =>
    (rest.mapM referenceAnd?).map fun parts => literals first ++ parts.flatten

/-- Makes line ends uniform: a carriage return with a literal character behind it is a line feed, as
is a literal one at the end, and a literal line feed behind a carriage return is dropped. -/
def joinLines : List DataChar → Text
  | [] => []
  | [last] => if last.literal ∧ last.char = '\r' then ['\n'] else [last.char]
  | first :: second :: rest =>
    if first.char = '\r' ∧ second.literal then
      if second.char = '\n' then '\n' :: joinLines rest else '\n' :: joinLines (second :: rest)
    else first.char :: joinLines (second :: rest)

/-- Takes a character directly behind a reference as one of the reference, so that it is kept. -/
def shieldFrom (behind : Bool) : List DataChar → List DataChar
  | [] => []
  | c :: rest => ⟨c.char, c.literal && !behind⟩ :: shieldFrom (!c.literal) rest

/-- The text of an element's character data. -/
def characterData? (text : Text) : Option Text :=
  if text.all isContentChar ∧ !Text.includes "]]>" text then
    (dataChars? text).map fun data => joinLines (shieldFrom false data)
  else none

/-- The text of a CDATA section. -/
def sectionData? (text : Text) : Option Text :=
  if text.all isContentChar then some (joinLines (literals text)) else none

/-- Makes blanks uniform: a literal line end or tab is one space. -/
def joinBlanks : List DataChar → Text
  | [] => []
  | first :: rest =>
    -- The line feed behind it stands for both.
    if first.literal ∧ first.char = '\r' ∧ rest.head? = some ⟨'\n', true⟩ then joinBlanks rest
    else if first.literal ∧ isSpace first.char then ' ' :: joinBlanks rest
    else first.char :: joinBlanks rest

/-- The text of an attribute's value, whose characters a document may hold. -/
def attributeData? (text : Text) : Option Text := (dataChars? text).map joinBlanks

end RelyingParty.Xml
