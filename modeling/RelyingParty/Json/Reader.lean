import RelyingParty.Json.Token

/-! Reading a JSON value from text. -/

namespace RelyingParty.Json

/-- Reads what stands behind an opening mark: nothing when the closing one follows, and else what a
reader takes. -/
def readEnclosed {α : Type} (close : Char) (collect : List α → Json)
    (read : Text → Except Fault (List α × Text)) (text : Text) : Except Fault (Json × Text) :=
  match Text.dropStart? [close] (skipSpace text) with
  | some rest => return (collect [], rest)
  -- A comma without an item in front of it is found by the reader of the items.
  | none => do
    let (inner, rest) ← read (skipSpace text)
    return (collect inner, rest)

mutual

/-- Reads one value; the first argument bounds the number of steps. -/
def readValue : (steps : Nat) → Text → Except Fault (Json × Text)
  | 0, _ => .error .malformed
  | steps + 1, text => do
    let (token, rest) ← readToken (skipSpace text)
    -- Brackets and braces open what is read in turn, with one step less.
    match token with
    | .null => return (null, rest)
    | .bool value => return (bool value, rest)
    | .number value => return (number value, rest)
    | .string value => return (string value, rest)
    | .arrayStart => readEnclosed ']' array (readItems steps) rest
    | .objectStart => readEnclosed '}' ofMembers (readMembers steps) rest

/-- Reads the items of an array up to its closing bracket. -/
def readItems : (steps : Nat) → Text → Except Fault (List Json × Text)
  | 0, _ => .error .malformed
  | steps + 1, text => do
    let (item, rest) ← readValue steps text
    match skipSpace rest with
    | ']' :: rest => return ([item], rest)
    | ',' :: rest =>
      let (items, rest) ← readItems steps rest
      return (item :: items, rest)
    -- A text that ends too early is told from one that goes on wrongly.
    | [] => throw .unfinished
    | _ => throw .malformed

/-- Reads the members of an object up to its closing brace. -/
def readMembers : (steps : Nat) → Text → Except Fault (List (Text × Json) × Text)
  | 0, _ => .error .malformed
  | steps + 1, text => do
    let some rest := Text.dropStart? "\"" (skipSpace text) | throw .malformed
    let (name, rest) ← readText rest
    -- Blanks may stand around the colon.
    let some rest := Text.dropStart? ":" (skipSpace rest) | throw .malformed
    let (value, rest) ← readValue steps rest
    match skipSpace rest with
    | '}' :: rest => return ([(name, value)], rest)
    | ',' :: rest =>
      let (members, rest) ← readMembers steps rest
      return ((name, value) :: members, rest)
    | [] => throw .unfinished
    | _ => throw .malformed

end

/-- Reads a text that is one value and blanks around it. -/
def parse (text : Text) : Except Fault Json := do
  let (value, rest) ← readValue (text.length + 1) text
  if skipSpace rest = [] then return value else throw .malformed

end RelyingParty.Json
