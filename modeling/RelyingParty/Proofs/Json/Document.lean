import RelyingParty.Json.Reader
import RelyingParty.Proofs.Json.Record

/-! A record that is read from JSON stands at the front of the text as one whole value, of whatever
kind the values of its fields are. -/

namespace RelyingParty.Json

variable {α ρ : Type} {text rest : Text}

/-- Blanks are skipped once. -/
theorem skipSpace_skipSpace (text : Text) : skipSpace (skipSpace text) = skipSpace text :=
  List.dropWhile_idempotent _ _

/-- A value may stand behind blanks. -/
theorem readValue_skipSpace (steps : Nat) (text : Text) :
    readValue steps (skipSpace text) = readValue steps text := by
  -- Blanks are skipped again, which changes nothing.
  cases steps with
  | zero => rfl
  | succ steps => rw [readValue, readValue, skipSpace_skipSpace]

/-- An item may stand behind blanks. -/
theorem readItems_skipSpace (steps : Nat) (text : Text) :
    readItems steps (skipSpace text) = readItems steps text := by
  -- An item begins with its value.
  cases steps with
  | zero => rfl
  | succ steps => rw [readItems, readItems, readValue_skipSpace]

/-- A member may stand behind blanks. -/
theorem readMembers_skipSpace (steps : Nat) (text : Text) :
    readMembers steps (skipSpace text) = readMembers steps text := by
  -- Blanks are skipped again in front of the name.
  cases steps with
  | zero => rfl
  | succ steps => rw [readMembers, readMembers, skipSpace_skipSpace]

/-- Skipping blanks makes no text longer. -/
theorem skipSpace_length_le (text : Text) : (skipSpace text).length ≤ text.length :=
  Text.dropWhile_length_le _ _

/-- The opening of an array or object is a single character. -/
theorem eq_of_readToken_opening {token : Token}
    (opening : token = .arrayStart ∨ token = .objectStart)
    (read : readToken text = .ok (token, rest)) :
    (token = .arrayStart ∧ text = '[' :: rest) ∨ (token = .objectStart ∧ text = '{' :: rest) := by
  unfold readToken at read
  split at read
  · cases read
  case h_6 =>
    cases read
    exact .inl ⟨rfl, rfl⟩
  case h_7 =>
    cases read
    exact .inr ⟨rfl, rfl⟩
  case h_9 =>
    split at read
    · obtain ⟨_, _, same⟩ := map_eq_ok_iff.mp read
      rcases opening with rfl | rfl <;> cases same
    · cases read
  -- All others are scalars.
  all_goals
    obtain ⟨_, _, same⟩ := map_eq_ok_iff.mp read
    rcases opening with rfl | rfl <;> cases same

/-- A scalar is a value. -/
theorem exists_readValue_of_readScalar {decode : Decoder α} {value : α}
    (noArray : ∀ value, decode (.array []) ≠ .ok value)
    (noObject : ∀ value, decode (.object []) ≠ .ok value)
    (read : readScalar decode text = .ok (value, rest)) :
    ∃ json, ∀ steps, readValue (steps + 1) text = .ok (json, rest) := by
  -- The token of a scalar is the whole value.
  obtain ⟨⟨token, behind⟩, first, decoded⟩ := bind_eq_ok_iff.mp read
  obtain ⟨value, known, same⟩ := bind_eq_ok_iff.mp decoded
  cases same
  have first := mapError_eq_ok_iff.mp first
  have known := mapError_eq_ok_iff.mp known
  refine ⟨token.value, fun steps => ?_⟩
  rw [readValue, first]
  cases token with
  | arrayStart => exact absurd known (noArray value)
  | objectStart => exact absurd known (noObject value)
  | null | bool | number | string => rfl

/-- Whether a field reads a value that is a single token. -/
structure RecordField.IsScalar (field : RecordField ρ) : Prop where
  peeks (record : ρ) : Peeks (field.read record)
  reads {record value : ρ} {text rest : Text} (read : field.read record text = .ok (value, rest)) :
    ∃ json, ∀ steps, readValue (steps + 1) text = .ok (json, rest)

/-- The field of a value that is no array and no object. -/
theorem RecordField.isScalar_scalar (name : Text) {decode : Decoder α} (set : α → ρ → ρ)
    (noArray : ∀ value, decode (.array []) ≠ .ok value)
    (noObject : ∀ value, decode (.object []) ≠ .ok value) :
    (RecordField.scalar name decode set).IsScalar where
  -- Such a field reads one scalar and nothing else.
  peeks := peeks_scalar name decode set
  reads read := by
    obtain ⟨⟨value, behind⟩, read, same⟩ := bind_eq_ok_iff.mp read
    cases same
    exact exists_readValue_of_readScalar noArray noObject read

/-- A member is read with its value, and closes the object or is followed by others. -/
theorem readMembers_of_member {steps : Nat} {opened name named start left : Text} {json : Json}
    (quote : skipSpace text = '"' :: opened) (written : readText opened = .ok (name, named))
    (colon : skipSpace named = ':' :: start) (value : readValue steps start = .ok (json, left)) :
    (skipSpace left = '}' :: rest → readMembers (steps + 1) text = .ok ([(name, json)], rest)) ∧
      ∀ {behind members}, skipSpace left = ',' :: behind →
        readMembers steps behind = .ok (members, rest) →
        readMembers (steps + 1) text = .ok ((name, json) :: members, rest) := by
  -- Name, colon and value are read, and what follows decides.
  have quoted : Text.dropStart? "\"" (skipSpace text) = some opened :=
    Text.dropStart?_eq_some_iff.mpr quote
  have divided : Text.dropStart? ":" (skipSpace named) = some start :=
    Text.dropStart?_eq_some_iff.mpr colon
  rw [readMembers, quoted]
  constructor
  · intro closes
    refine bind_eq_ok_iff.mpr ⟨(name, named), written, ?_⟩
    simp only [divided]
    refine bind_eq_ok_iff.mpr ⟨(json, left), value, ?_⟩
    simp only [closes]
    rfl
  · intro behind members comma later
    refine bind_eq_ok_iff.mpr ⟨(name, named), written, ?_⟩
    simp only [divided]
    refine bind_eq_ok_iff.mpr ⟨(json, left), value, ?_⟩
    -- Behind a comma the other members are read in the steps that are left.
    simp only [comma]
    exact bind_eq_ok_iff.mpr ⟨(members, rest), later, rfl⟩

/-- An item is read with its value, and closes the array or is followed by others. -/
theorem readItems_of_item {steps : Nat} {left : Text} {json : Json}
    (value : readValue steps text = .ok (json, left)) :
    (skipSpace left = ']' :: rest → readItems (steps + 1) text = .ok ([json], rest)) ∧
      ∀ {behind items}, skipSpace left = ',' :: behind →
        readItems steps behind = .ok (items, rest) →
        readItems (steps + 1) text = .ok (json :: items, rest) := by
  -- The value is read, and what follows decides.
  rw [readItems]
  constructor
  · intro closes
    refine bind_eq_ok_iff.mpr ⟨(json, left), value, ?_⟩
    simp only [closes]
    rfl
  · intro behind items comma later
    refine bind_eq_ok_iff.mpr ⟨(json, left), value, ?_⟩
    simp only [comma]
    exact bind_eq_ok_iff.mpr ⟨(items, rest), later, rfl⟩

/-- A text is a value when nothing but blanks stand behind the one that it begins with. -/
theorem exists_parse_iff {value : Json}
    (read : readValue (text.length + 1) text = .ok (value, rest)) :
    (∃ json, parse text = .ok json) ↔ ∀ c ∈ rest, isSpace c = true := by
  -- What is left behind the value has to be blank, and nothing else is asked.
  unfold parse
  rw [read, ← List.dropWhile_eq_nil_iff, ← skipSpace]
  constructor
  · rintro ⟨json, whole⟩
    by_cases blank : skipSpace rest = []
    · exact blank
    · change (if skipSpace rest = [] then .ok value else .error Fault.malformed) = Except.ok json
        at whole
      rw [if_neg blank] at whole
      cases whole
  · exact fun blank => ⟨value, if_pos blank⟩

section Opening

variable {behind : Text}

/-- What is enclosed is closed at once, or is read up to its closing mark. -/
theorem readEnclosed_eq {close : Char} {collect : List α → Json}
    {read : Text → Except Fault (List α × Text)} :
    (skipSpace text = close :: rest →
      readEnclosed close collect read text = .ok (collect [], rest)) ∧
      ∀ {inner}, (skipSpace text).head? ≠ some close →
        read (skipSpace text) = .ok (inner, rest) →
        readEnclosed close collect read text = .ok (collect inner, rest) := by
  constructor
  · intro closes
    rw [readEnclosed, Text.dropStart?_eq_some_iff.mpr closes]
    rfl
  · intro inner opens found
    -- The closing mark is not dropped where it does not stand.
    have absent : Text.dropStart? [close] (skipSpace text) = none := by
      refine Option.eq_none_iff_forall_ne_some.mpr fun left closes => opens ?_
      rw [Text.dropStart?_eq_some_iff.mp closes]
      rfl
    rw [readEnclosed, absent]
    exact bind_eq_ok_iff.mpr ⟨(inner, rest), found, rfl⟩

/-- Behind an opening bracket stand items. -/
theorem readValue_of_arrayStart (first : readToken (skipSpace text) = .ok (.arrayStart, behind))
    (steps : Nat) :
    readValue (steps + 1) text = readEnclosed ']' array (readItems steps) behind := by
  -- The token decides what is read behind it.
  rw [readValue, first]
  rfl

/-- Behind an opening brace stand members. -/
theorem readValue_of_objectStart (first : readToken (skipSpace text) = .ok (.objectStart, behind))
    (steps : Nat) :
    readValue (steps + 1) text = readEnclosed '}' ofMembers (readMembers steps) behind := by
  -- The same with the token of an object.
  rw [readValue, first]
  rfl

end Opening

section Fields

variable {fields : List (RecordField ρ)} {record value : ρ} {seen : List Text}

/-- The members of a record are the members of an object. -/
theorem exists_readMembers (scalars : ∀ field ∈ fields, field.IsScalar) {count steps : Nat}
    (found : readRecordMembers fields count seen record text = .ok (value, rest))
    (room : text.length < steps) : ∃ members, readMembers steps text = .ok (members, rest) := by
  have peeks : ∀ field ∈ fields, ∀ record, Peeks (field.read record) :=
    fun field inside => (scalars field inside).peeks
  induction count generalizing seen record text steps with
  | zero => cases found
  | succ count ih =>
    obtain ⟨opened, name, named, read, behind, quote, written, member, ends⟩ :=
      readRecordMembers_eq_ok_iff.mp found
    obtain ⟨field, start, known, _, colon, item⟩ := readMemberValue_eq_ok_iff.mp member
    obtain ⟨json, whole⟩ := (scalars field (mem_of_fieldNamed known)).reads item
    -- Every part is taken off the text, so that the steps suffice for what is left.
    obtain ⟨opening, _, rfl, _⟩ := takes_readMark '"' quote
    obtain ⟨spelling, _, rfl, _⟩ := takes_readText written
    obtain ⟨dividing, some_dividing, rfl, _⟩ := takes_readMark ':' colon
    obtain ⟨front, rfl, _⟩ := peeks field (mem_of_fieldNamed known) record item
    have some_length := List.length_pos_iff.mpr some_dividing
    simp only [List.length_append] at room
    obtain ⟨steps, rfl⟩ : ∃ left, steps = left + 2 := ⟨steps - 2, by omega⟩
    have quoted := readMark_eq_ok_iff.mp quote
    have divided := readMark_eq_ok_iff.mp colon
    -- This member is the last one, or a comma leads to those of the induction.
    rcases ends with ⟨closes, rfl⟩ | ⟨left, comma, later⟩
    · exact ⟨_, (readMembers_of_member quoted written divided (whole steps)).1 closes⟩
    · obtain ⟨comma_front, some_comma, rfl, _⟩ := exists_front_of_mark comma
      simp only [List.length_append] at room
      have enough : left.length < steps + 1 := by omega
      obtain ⟨members, read⟩ := ih later enough
      exact ⟨_, (readMembers_of_member quoted written divided (whole steps)).2 comma read⟩

/-- An item with the closing bracket behind it is the last one of an array. -/
theorem exists_readItems_of_closed {field : RecordField ρ} (scalar : field.IsScalar) {steps : Nat}
    {behind : Text} (item : field.read record text = .ok (value, behind))
    (closes : skipSpace behind = ']' :: rest) (room : text.length < steps) :
    ∃ items, readItems steps text = .ok (items, rest) := by
  obtain ⟨json, whole⟩ := scalar.reads item
  obtain ⟨front, rfl, _⟩ := scalar.peeks record item
  -- The bracket is part of the text, so there are two steps at least.
  obtain ⟨bracket, some_bracket, rfl, _⟩ := exists_front_of_mark closes
  have some_length := List.length_pos_iff.mpr some_bracket
  simp only [List.length_append] at room
  obtain ⟨steps, rfl⟩ : ∃ left, steps = left + 2 := ⟨steps - 2, by omega⟩
  exact ⟨_, (readItems_of_item (whole steps)).1 closes⟩

/-- The items of a record are items of an array, from one item on. -/
theorem exists_readItems (scalars : ∀ field ∈ fields, field.IsScalar) {field : RecordField ρ}
    (scalar : field.IsScalar) {index steps : Nat} {read : ρ} {behind : Text}
    (item : field.read record text = .ok (read, behind))
    (later : readRecordItems read (index + 1) fields behind = .ok (value, rest))
    (room : text.length < steps) : ∃ items, readItems steps text = .ok (items, rest) := by
  -- By induction on the fields: each reads an item, and steps are left for the others.
  induction fields generalizing field record text index steps read behind with
  | nil =>
    obtain ⟨bracket, _⟩ := readRecordItems_nil_iff.mp later
    exact exists_readItems_of_closed scalar item (readMark_eq_ok_iff.mp bracket) room
  | cons next fields ih =>
    -- The array is closed behind this item, or a comma leads to the item of the next field.
    rcases readRecordItems_cons_iff.mp later with
      ⟨closes, _⟩ | ⟨start, again, left, ⟨_, placed⟩, another, last⟩
    · exact exists_readItems_of_closed scalar item closes room
    · rw [if_neg (Nat.succ_ne_zero index)] at placed
      obtain ⟨tail, comma, rfl, _⟩ := placed
      obtain ⟨json, whole⟩ := scalar.reads item
      obtain ⟨front, rfl, _⟩ := scalar.peeks record item
      obtain ⟨dividing, some_dividing, rfl, _⟩ := exists_front_of_mark comma
      have some_length := List.length_pos_iff.mpr some_dividing
      have shorter := skipSpace_length_le tail
      simp only [List.length_append] at room
      obtain ⟨steps, rfl⟩ : ∃ left, steps = left + 2 := ⟨steps - 2, by omega⟩
      have enough : (skipSpace tail).length < steps + 1 := by omega
      obtain ⟨items, read⟩ := ih (fun other inside => scalars other (List.mem_cons_of_mem _ inside))
        (scalars next List.mem_cons_self) another last enough
      rw [readItems_skipSpace] at read
      exact ⟨_, (readItems_of_item (whole steps)).2 comma read⟩

/-- A record that is read begins with a value, and both end at the same place. -/
theorem exists_readValue (scalars : ∀ field ∈ fields, field.IsScalar) {title : Text}
    (found : readRecord title fields record text = .ok (value, rest)) {steps : Nat}
    (room : text.length < steps) : ∃ json, readValue steps text = .ok (json, rest) := by
  obtain ⟨⟨token, behind⟩, first, body⟩ := bind_eq_ok_iff.mp found
  have first := mapError_eq_ok_iff.mp first
  obtain ⟨steps, rfl⟩ : ∃ left, steps = left + 1 := ⟨steps - 1, by omega⟩
  have bare := skipSpace_length_le text
  -- A record begins with a brace or with a bracket, and each has its own reader.
  cases token with
  | objectStart =>
    obtain ⟨_, begins⟩ := (eq_of_readToken_opening (.inr rfl) first).resolve_left (by simp)
    rw [begins, List.length_cons] at bare
    change readRecordObject fields record behind = .ok (value, rest) at body
    -- An object is closed at once, or has the members of the record.
    unfold readRecordObject at body
    split at body
    · rename_i closes
      cases body
      rw [readValue_of_objectStart first]
      exact ⟨ofMembers [], readEnclosed_eq.1 closes⟩
    · rename_i other
      have enough : behind.length < steps := by omega
      obtain ⟨members, read⟩ := exists_readMembers scalars body enough
      -- The first name begins with a quote, so the object is not closed at once.
      have opens : (skipSpace behind).head? ≠ some '}' := fun shut => by
        obtain ⟨tail, shut⟩ := List.head?_eq_some_iff.mp shut
        exact other tail shut
      rw [← readMembers_skipSpace] at read
      rw [readValue_of_objectStart first]
      exact ⟨ofMembers members, readEnclosed_eq.2 opens read⟩
  | arrayStart =>
    obtain ⟨_, begins⟩ := (eq_of_readToken_opening (.inl rfl) first).resolve_right (by simp)
    rw [begins, List.length_cons] at bare
    change readRecordItems record 0 fields behind = .ok (value, rest) at body
    have closed (closes : skipSpace behind = ']' :: rest) :
        ∃ json, readValue (steps + 1) text = .ok (json, rest) := by
      rw [readValue_of_arrayStart first]
      exact ⟨array [], readEnclosed_eq.1 closes⟩
    -- An array is closed at once as well, or its first item belongs to the first field.
    cases fields with
    | nil => exact closed (readMark_eq_ok_iff.mp (readRecordItems_nil_iff.mp body).1)
    | cons field fields =>
      rcases readRecordItems_cons_iff.mp body with
        ⟨closes, _⟩ | ⟨start, read, left, ⟨opens, placed⟩, item, later⟩
      · exact closed closes
      · rw [if_pos rfl] at placed
        subst placed
        have shorter := skipSpace_length_le behind
        have enough : (skipSpace behind).length < steps := by omega
        obtain ⟨items, read⟩ := exists_readItems
          (fun other inside => scalars other (List.mem_cons_of_mem _ inside))
          (scalars field List.mem_cons_self) item later enough
        rw [readValue_of_arrayStart first]
        exact ⟨array items, readEnclosed_eq.2 opens read⟩
  | null | bool | number | string => cases body

/-- What is read of a record is a whole value in front of all that follows it, which is not looked
at: both together are a value only when nothing but blanks follow. -/
theorem exists_document_of_readRecord (scalars : ∀ field ∈ fields, field.IsScalar) {title : Text}
    (found : readRecord title fields record text = .ok (value, rest)) :
    ∃ document, text = document ++ rest ∧ ∀ more,
      readRecord title fields record (document ++ more) = .ok (value, more) ∧
        ((∃ json, parse (document ++ more) = .ok json) ↔ ∀ c ∈ more, isSpace c = true) := by
  -- The record is read in front of anything, and the value that it is goes as far.
  have peeks : ∀ field ∈ fields, ∀ record, Peeks (field.read record) :=
    fun field inside => (scalars field inside).peeks
  obtain ⟨document, _, whole, again⟩ := takes_readRecord peeks title record found
  refine ⟨document, whole, fun more => ⟨again more, ?_⟩⟩
  obtain ⟨json, read⟩ := exists_readValue scalars (again more) (Nat.lt_succ_self _)
  exact exists_parse_iff read

end Fields

end RelyingParty.Json
