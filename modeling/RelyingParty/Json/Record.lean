import RelyingParty.Json.Decode
import RelyingParty.Json.Token

/-! Reading a record field by field from text; what stands behind its end is not looked at. -/

namespace RelyingParty.Json

/-- Why no record can be read: the text is no JSON, or a value is not what is expected. -/
inductive RecordFault where
  | text (fault : Fault)
  | data (mismatch : Mismatch)
  deriving DecidableEq, Repr

/-- The kind of a fault. -/
def RecordFault.category : RecordFault → Text
  | text .unfinished => "eof"
  | text .malformed => "syntax"
  | data _ => "data"

/-- Reads from the start of a text and gives the rest. -/
abbrev RecordReader (α : Type) := Text → Except RecordFault (α × Text)

/-- Reads the first token. -/
def nextToken : RecordReader Token := fun text => (readToken (skipSpace text)).mapError .text

/-- The value of a token; an opening stands for what it opens. -/
def Token.value : Token → Json
  | null => .null
  | bool value => .bool value
  | number value => .number value
  | string value => .string value
  | arrayStart => .array []
  | objectStart => .object []

/-- Reads a value that is a single token. -/
def readScalar {α : Type} (decode : Decoder α) : RecordReader α := fun text => do
  let (token, rest) ← nextToken text
  let value ← (decode token.value).mapError .data
  return (value, rest)

/-- A field of a record: its name, and how its value is read into the record. -/
structure RecordField (ρ : Type) where
  name : Text
  read : ρ → RecordReader ρ

/-- The field of a value that is a single token. -/
def RecordField.scalar {ρ α : Type} (name : Text) (decode : Decoder α) (set : α → ρ → ρ) :
    RecordField ρ where
  name
  read record text := do
    let (value, rest) ← readScalar decode text
    return (set value record, rest)

/-- The fault as seen from outside the value at a step. -/
def RecordFault.under (step : Step) : RecordFault → RecordFault
  | text fault => text fault
  | data mismatch => data (mismatch.under step)

variable {ρ : Type}

/-- The field of a name that must be known. -/
def fieldNamed (fields : List (RecordField ρ)) (name : Text) :
    Except RecordFault (RecordField ρ) :=
  match fields.find? (·.name = name) with
  | some field => .ok field
  | none => .error (.data ⟨[.member name], .unknownField name (fields.map RecordField.name)⟩)

/-- Reads a mark that must follow. -/
def readMark (mark : Char) : RecordReader Unit := fun text =>
  match skipSpace text with
  | [] => .error (.text .unfinished)
  | c :: rest => if c = mark then .ok ((), rest) else .error (.text .malformed)

/-- Reads the value of a member, whose name must be new. -/
def readMemberValue (fields : List (RecordField ρ)) (seen : List Text) (name : Text) (record : ρ) :
    RecordReader ρ := fun text => do
  let field ← fieldNamed fields name
  -- The name is looked up first, so an unknown member is reported as unknown even when it occurs
  -- twice.
  if seen.contains name then throw (.data ⟨[], .duplicateField name⟩)
  let ((), rest) ← readMark ':' text
  (field.read record rest).mapError (RecordFault.under (.member name))

/-- Reads members from a name on, up to the closing brace; the first argument bounds their
number. -/
def readRecordMembers (fields : List (RecordField ρ)) : (steps : Nat) → (seen : List Text) → ρ →
    RecordReader ρ
  | 0, _, _ => fun _ => .error (.text .malformed)
  | steps + 1, seen, record => fun text => do
    let ((), rest) ← readMark '"' text
    let (name, rest) ← (readText rest).mapError .text
    let (record, rest) ← readMemberValue fields seen name record rest
    match skipSpace rest with
    | [] => throw (.text .unfinished)
    | '}' :: rest => return (record, rest)
    -- A comma needs a name behind it; the brace may not close the object there.
    | ',' :: rest => readRecordMembers fields steps (name :: seen) record rest
    | _ => throw (.text .malformed)

/-- Reads what follows the opening brace of a record. -/
def readRecordObject (fields : List (RecordField ρ)) (record : ρ) : RecordReader ρ := fun text =>
  match skipSpace text with
  | '}' :: rest => .ok (record, rest)
  | _ => readRecordMembers fields (text.length + 1) [] record text

/-- Reads the items of a record in the order of its fields; those behind the end keep what the
record has. -/
def readRecordItems (record : ρ) (index : Nat) : List (RecordField ρ) → RecordReader ρ
  | [] => fun text => do
    let ((), rest) ← readMark ']' text
    return (record, rest)
  | field :: fields => fun text => do
    let read (rest : Text) : Except RecordFault (ρ × Text) := do
      let (record, rest) ← (field.read record rest).mapError (RecordFault.under (.item index))
      readRecordItems record (index + 1) fields rest
    -- The array may end before any field.
    match skipSpace text with
    | ']' :: rest => return (record, rest)
    | rest =>
      if index = 0 then read rest
      else
        let ((), rest) ← readMark ',' rest
        match skipSpace rest with
        | [] => throw (.text .unfinished)
        | ']' :: _ => throw (.text .malformed)
        | rest => read rest

/-- Reads a record of some fields, which may be an object or an array; fields that are missing keep
what the record has. -/
def readRecord (title : Text) (fields : List (RecordField ρ)) (record : ρ) : RecordReader ρ :=
  fun text => do
    let (token, rest) ← nextToken text
    match token with
    | .objectStart => readRecordObject fields record rest
    | .arrayStart => readRecordItems record 0 fields rest
    | _ => throw (.data (unexpected token.value ("struct ".toList ++ title)))

end RelyingParty.Json
