import RelyingParty.Json
import RelyingParty.Text.Quoted

/-! Reading JSON values as data, with the place and the reason of the first mismatch. -/

namespace RelyingParty.Json

/-- A step from a value to one inside it. -/
inductive Step where
  | member (name : Text)
  | item (index : Nat)
  deriving DecidableEq, Repr

/-- Why a value is not what is expected. -/
inductive Reason where
  | wrongType (found expected : Text)
  | wrongValue (found expected : Text)
  | wrongLength (length : Nat) (expected : Text)
  | missingField (name : Text)
  | duplicateField (name : Text)
  | unknownField (name : Text) (known : List Text)
  | unknownVariant (name : Text) (known : List Text)
  | refused (message : Text)
  deriving DecidableEq, Repr

/-- A value that is not what is expected, by the steps that lead to it. -/
structure Mismatch where
  path : List Step
  reason : Reason
  deriving DecidableEq, Repr

/-- Reads a value as data. -/
abbrev Decoder (α : Type) := Json → Except Mismatch α

/-- A name between backticks. -/
def ticked (name : Text) : Text := '\x60' :: name ++ ['\x60']

/-- The message of a reason. -/
def Reason.message : Reason → Text
  | wrongType found expected => "invalid type: ".toList ++ found ++ ", expected " ++ expected
  | wrongValue found expected => "invalid value: ".toList ++ found ++ ", expected " ++ expected
  | wrongLength length expected =>
    "invalid length ".toList ++ Text.ofNat length ++ ", expected " ++ expected
  | missingField name => "missing field ".toList ++ ticked name
  | duplicateField name => "duplicate field ".toList ++ ticked name
  | unknownField name known =>
    "unknown field ".toList ++ ticked name ++ ", expected one of " ++
      List.intercalate ", " (known.map ticked)
  | unknownVariant name known =>
    "unknown variant ".toList ++ ticked name ++ ", expected one of " ++
      List.intercalate ", " (known.map ticked)
  | refused message => message

/-- A step as it is written; a point stands before a member unless the path begins with it. -/
def Step.text (first : Bool) : Step → Text
  | member name => if first then name else '.' :: name
  | item index => '[' :: Text.ofNat index ++ [']']

/-- A path as it is written; the empty one is a point. -/
def pathText : List Step → Text
  | [] => ['.']
  | first :: rest => first.text true ++ rest.flatMap (Step.text false)

/-- A number as messages describe it. -/
def describeNumber : JsonNumber → Text
  | .integer value => "integer ".toList ++ ticked (Text.ofInt value)
  | .real value => "floating point ".toList ++ ticked value.scientificText

/-- A value as messages describe it. -/
def describe : Json → Text
  | null => "null"
  | bool true => "boolean ".toList ++ ticked "true"
  | bool false => "boolean ".toList ++ ticked "false"
  | number value => describeNumber value
  | string value => "string ".toList ++ Text.quote value
  -- Of a collection only the kind is told.
  | array _ => "sequence"
  | object _ => "map"

/-- The mismatch of a value with what is expected in its place. -/
def unexpected (value : Json) (expected : Text) : Mismatch :=
  ⟨[], .wrongType value.describe expected⟩

/-- The mismatch as seen from outside. -/
def Mismatch.under (step : Step) (mismatch : Mismatch) : Mismatch :=
  { mismatch with path := step :: mismatch.path }

/-- Reads a value that is inside another one. -/
def decodeAt {α : Type} (step : Step) (decode : Decoder α) : Decoder α :=
  fun value => (decode value).mapError (Mismatch.under step)

/-- Reads a string. -/
def decodeText : Decoder Text
  | string value => .ok value
  | value => .error (unexpected value "a string")

/-- Reads a flag. -/
def decodeFlag : Decoder Bool
  | bool value => .ok value
  | value => .error (unexpected value "a boolean")

/-- Reads an integer between two bounds; the last argument names the range. -/
def decodeInteger (least greatest : Int) (range : Text) : Decoder Int
  | number (.integer value) =>
    if least ≤ value ∧ value ≤ greatest then .ok value
    else .error ⟨[], .wrongValue (describe (number (.integer value))) range⟩
  | value => .error (unexpected value range)

/-- Reads a signed integer of 64 bits. -/
def decodeInt64 : Decoder Int := decodeInteger (-0x8000000000000000) 0x7FFFFFFFFFFFFFFF "i64"

/-- Reads a value that null may stand for. -/
def decodeOptional {α : Type} (decode : Decoder α) : Decoder (Option α)
  | null => .ok none
  | value => (decode value).map some

/-- Reads the items of an array from an index on. -/
def decodeItems {α : Type} (decode : Decoder α) : (index : Nat) → List Json →
    Except Mismatch (List α)
  | _, [] => .ok []
  | index, item :: rest => do
    -- A fault names the index of its item.
    let value ← decodeAt (.item index) decode item
    return value :: (← decodeItems decode (index + 1) rest)

/-- Reads an array. -/
def decodeList {α : Type} (decode : Decoder α) : Decoder (List α)
  | array items => decodeItems decode 0 items
  | value => .error (unexpected value "a sequence")

/-- What a record is read from: the members of an object, or the items of an array in the order of
the record's fields. -/
inductive Source where
  | members (members : List (Text × Json))
  | items (items : List Json) (expected : Text)

/-- Some fields of a record, or the fault to report; one in the value of a member names it. -/
inductive Fields (α : Type) where
  | read (value : α)
  | fault (member : Option Text) (mismatch : Mismatch)

/-- Whether the fault of one member is reported before an earlier one: members are visited by name,
and only then are missing ones noticed. -/
def visitedBefore : Option Text → Option Text → Bool
  | some name, some earlier => name < earlier
  | some _, none => true
  | none, _ => false

/-- Adds a field to those read so far. -/
def Fields.also {α β : Type} : Fields (α → β) → Fields α → Fields β
  | .read make, .read value => .read (make value)
  | .read _, .fault member mismatch => .fault member mismatch
  | .fault member mismatch, .read _ => .fault member mismatch
  | .fault earlier first, .fault member mismatch =>
    -- Of two faults the one that is met first counts, in the order of the members.
    if visitedBefore member earlier then .fault member mismatch else .fault earlier first

/-- The fields, or the mismatch to report. -/
def Fields.result {α : Type} : Fields α → Except Mismatch α
  | .read value => .ok value
  | .fault _ mismatch => .error mismatch

/-- Reads one field, by its place among the fields and its name; what stands for a missing member
is given unless it has to be there. -/
def Source.field {α : Type} (index : Nat) (name : Text) (decode : Decoder α)
    (absent : Option α) (source : Source) : Fields α :=
  match source with
  | .members list =>
    match Table.get? name list, absent with
    | some value, _ =>
      match decodeAt (.member name) decode value with
      | .ok value => .read value
      | .error mismatch => .fault (some name) mismatch
    -- A member that may be missing has a value of its own then.
    | none, some value => .read value
    | none, none => .fault none ⟨[], .missingField name⟩
  | .items list expected =>
    -- In an array no field may be missing.
    match list[index]? with
    | some value =>
      match decodeAt (.item index) decode value with
      | .ok value => .read value
      | .error mismatch => .fault none mismatch
    | none => .fault none ⟨[], .wrongLength index expected⟩

/-- Reads a field that has to be there. -/
def Source.required {α : Type} (index : Nat) (name : Text) (decode : Decoder α)
    (source : Source) : Fields α :=
  source.field index name decode none

/-- Reads a field that may be missing or null. -/
def Source.optional {α : Type} (index : Nat) (name : Text) (decode : Decoder α)
    (source : Source) : Fields (Option α) :=
  source.field index name (decodeOptional decode) (some none)

/-- Reads a record of some number of fields from an object or an array. -/
def decodeRecord {α : Type} (title : Text) (count : Nat) (build : Source → Fields α) : Decoder α
  | object members => (build (.members members)).result
  | array items => do
    let expected := "struct ".toList ++ title ++ " with " ++ Text.ofNat count ++ " elements"
    let value ← (build (.items items expected)).result
    -- The fields are read first, and only then the number of items is looked at.
    if count < items.length then
      throw ⟨[], .wrongLength items.length "fewer elements in array"⟩
    return value
  | value => .error (unexpected value ("struct ".toList ++ title))

end RelyingParty.Json
