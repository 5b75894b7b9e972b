import RelyingParty.Table
import RelyingParty.Number.Decimal

/-! JSON values and their text. -/

namespace RelyingParty

/-- A JSON number: an integer of 64 bits as written, or a floating-point number. -/
inductive JsonNumber where
  | integer (value : Int)
  | real (value : Binary64)
  deriving DecidableEq, Repr

/-- A JSON value; the members of an object stand in the order of their names. -/
inductive Json where
  | null
  | bool (value : Bool)
  | number (value : JsonNumber)
  | string (value : Text)
  | array (items : List Json)
  | object (members : List (Text × Json))
  deriving Repr

namespace Json

/-- The optional text, with null for none. -/
def ofOption : Option Text → Json
  | none => null
  | some value => string value

/-- The optional integer, with null for none. -/
def ofOptionalInt : Option Int → Json
  | none => null
  | some value => number (.integer value)

/-- An array of texts. -/
def ofTexts (values : List Text) : Json := array (values.map string)

/-- A natural number. -/
def ofNat (n : Nat) : Json := number (.integer n)

/-- The object of a list of members. -/
def ofMembers (members : List (Text × Json)) : Json := object (Table.ofPairs members)

/-- The object with a member more; any other value stays as it is. -/
def withMember (json : Json) (name : Text) (value : Json) : Json :=
  match json with
  | object members => object (Table.insert name value members)
  | other => other

/-- One character inside a string. -/
def escapeChar (c : Char) : Text :=
  if c = '"' then "\\\""
  else if c = '\\' then "\\\\"
  else if c = '\n' then "\\n"
  else if c = '\r' then "\\r"
  else if c = '\t' then "\\t"
  -- Other control characters are written by their numbers.
  else if c < ' ' then
    ['\\', 'u', '0', '0', Nat.digitChar (c.toNat / 16), Nat.digitChar (c.toNat % 16)]
  else [c]

/-- A string with its quotes. -/
def renderText (value : Text) : Text := '"' :: value.flatMap escapeChar ++ ['"']

/-- A number in decimal. -/
def renderNumber : JsonNumber → Text
  | .integer value => Text.ofInt value
  | .real value => value.scientificText

mutual

/-- The compact text of a value. -/
def render : Json → Text
  | null => "null"
  | bool true => "true"
  | bool false => "false"
  | number value => renderNumber value
  | string value => renderText value
  | array items => '[' :: renderItems items ++ [']']
  | object members => '{' :: renderMembers members ++ ['}']

/-- The items of an array between commas. -/
def renderItems : List Json → Text
  | [] => []
  | [item] => render item
  | item :: rest => render item ++ ',' :: renderItems rest

/-- The members of an object between commas. -/
def renderMembers : List (Text × Json) → Text
  | [] => []
  | [(name, value)] => renderText name ++ ':' :: render value
  | (name, value) :: rest => renderText name ++ ':' :: render value ++ ',' :: renderMembers rest

end

end Json

end RelyingParty
