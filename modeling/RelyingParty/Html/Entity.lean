import RelyingParty.Text

/-! Character references in attribute values. -/

namespace RelyingParty.Html

/-- The character with a code, when there is one. -/
def charOfCode? (code : Nat) : Option Char :=
  if code.isValidChar then some (Char.ofNat code) else none

/-- The character that a reference names between the ampersand and the semicolon. -/
def referenced? (name : Text) : Option Char :=
  if name = "amp" then some '&'
  else if name = "lt" then some '<'
  else if name = "gt" then some '>'
  else if name = "quot" then some '"'
  else if name = "apos" then some '\''
  else
    -- Any other name has to be a number, in base sixteen behind either mark.
    match name with
    | '#' :: 'x' :: digits => (Text.digits? 16 digits).bind charOfCode?
    | '#' :: 'X' :: digits => (Text.digits? 16 digits).bind charOfCode?
    | '#' :: digits => (Text.digits? 10 digits).bind charOfCode?
    | _ => none

/-- The character of a reference whose ampersand is already read, and its length. -/
def reference? (text : Text) : Option (Char × Nat) :=
  match Text.splitFirst ';' text with
  | some (name, _) => (referenced? name).map fun c => (c, name.length + 1)
  | none => none

/-- Decodes the character references of a text once; what names no character stays as it is. -/
def unescape (text : Text) : Text :=
  match text with
  | [] => []
  | c :: rest =>
    if c = '&' then
      match reference? rest with
      -- The decoded character is not looked at again.
      | some (named, length) => named :: unescape (rest.drop length)
      | none => c :: unescape rest
    else c :: unescape rest
termination_by text.length
decreasing_by all_goals simp; try omega

/-- Undoes the four escapes of link values, one kind after the other. -/
def unescapeLink (text : Text) : Text :=
  Text.replaceAll "&quot;" ['"'] (Text.replaceAll "&gt;" ['>']
    (Text.replaceAll "&lt;" ['<'] (Text.replaceAll "&amp;" ['&'] text)))

end RelyingParty.Html
