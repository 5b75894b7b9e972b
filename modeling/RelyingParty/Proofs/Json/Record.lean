import Mathlib.Data.List.DropRight
import RelyingParty.Proofs.Json.Front

/-! A record that is read from JSON ends with its own bracket, and what stands behind that is not
looked at. -/

namespace RelyingParty.Json

variable {α ρ : Type} {text rest : Text}

/-- The first token is read up to the next character. -/
theorem peeks_nextToken : Peeks nextToken := peeks_readToken.skipSpace.mapError RecordFault.text

/-- A mark is read where it stands behind blanks. -/
theorem readMark_eq_ok_iff {mark : Char} {value : Unit} :
    readMark mark text = .ok (value, rest) ↔ skipSpace text = mark :: rest := by
  -- The first character behind the blanks is compared.
  unfold readMark
  cases skipSpace text with
  | nil => simp
  | cons c behind => by_cases same : c = mark <;> simp [same]

/-- A mark behind blanks is found there, whatever follows it. -/
theorem exists_front_of_mark {mark : Char} (begins : skipSpace text = mark :: rest) :
    ∃ front, front ≠ [] ∧ text = front ++ rest ∧
      ∀ more : Text, skipSpace (front ++ more) = mark :: more := by
  -- The blanks and the mark are taken together.
  obtain ⟨blanks, whole, skipped⟩ := exists_blanks text
  rw [begins] at whole skipped
  refine ⟨blanks ++ [mark], by simp, by simp [whole], fun more => ?_⟩
  rw [List.append_assoc]
  exact skipped _ rfl

/-- A mark is taken. -/
theorem takes_readMark (mark : Char) : Takes (readMark mark) := by
  -- A mark is found in front of anything.
  intro text value rest found
  obtain ⟨front, some_front, whole, again⟩ := exists_front_of_mark (readMark_eq_ok_iff.mp found)
  exact ⟨front, some_front, whole, fun more => readMark_eq_ok_iff.mpr (again more)⟩

/-- A scalar is read up to the next character. -/
theorem peeks_readScalar (decode : Decoder α) : Peeks (readScalar decode) := by
  -- The token is read first, and decoding it takes nothing more.
  have decoded (token : Token) : Peeks fun text => (do
      let value ← (decode token.value).mapError .data
      return (value, text) : Except RecordFault (α × Text)) := by
    intro text value rest found
    obtain ⟨read, known, same⟩ := bind_eq_ok_iff.mp found
    cases same
    exact ⟨[], rfl, fun more _ => bind_eq_ok_iff.mpr ⟨value, known, rfl⟩⟩
  exact peeks_nextToken.bind decoded

/-- The field of a scalar is read up to the next character. -/
theorem peeks_scalar (name : Text) (decode : Decoder α) (set : α → ρ → ρ) (record : ρ) :
    Peeks ((RecordField.scalar name decode set).read record) := by
  -- Setting the field takes nothing more.
  have placed (value : α) : Peeks fun text => (.ok (set value record, text) :
      Except RecordFault (ρ × Text)) := by
    intro text value rest found
    cases found
    exact ⟨[], rfl, fun more _ => rfl⟩
  exact (peeks_readScalar decode).bind placed

/-- The field of a known name is one of the fields. -/
theorem mem_of_fieldNamed {fields : List (RecordField ρ)} {name : Text} {field : RecordField ρ}
    (named : fieldNamed fields name = .ok field) : field ∈ fields := by
  -- It was found among them.
  unfold fieldNamed at named
  split at named
  · rename_i known
    cases named
    exact List.mem_of_find?_eq_some known
  · cases named

/-- Whether an item begins in a text: behind blanks, and behind a comma unless it is the first. -/
def BeginsItem (index : Nat) (text start : Text) : Prop :=
  start.head? ≠ some ']' ∧
    if index = 0 then skipSpace text = start
    else ∃ left, skipSpace text = ',' :: left ∧ skipSpace left = start ∧ start ≠ []

/-- What stands in front of an item may stand in front of all that begins in the same way. -/
theorem BeginsItem.exists_front {index : Nat} {start : Text}
    (begins : BeginsItem index text start) :
    ∃ front, text = front ++ start ∧
      ∀ other : Text, other.head? = start.head? → BeginsItem index (front ++ other) other := by
  -- In front of the first item there are blanks, in front of another one a comma as well.
  obtain ⟨opens, placed⟩ := begins
  by_cases first : index = 0
  · rw [if_pos first] at placed
    obtain ⟨blanks, whole, skipped⟩ := exists_blanks text
    rw [placed] at whole skipped
    refine ⟨blanks, whole, fun other same => ⟨same ▸ opens, ?_⟩⟩
    rw [if_pos first]
    exact skipped other same
  · rw [if_neg first] at placed
    -- The comma is taken with the blanks on both of its sides.
    obtain ⟨left, comma, bare, some_start⟩ := placed
    obtain ⟨front, _, rfl, divides⟩ := exists_front_of_mark comma
    obtain ⟨blanks, whole, skipped⟩ := exists_blanks left
    rw [bare] at whole skipped
    refine ⟨front ++ blanks, by simp [whole], fun other same => ⟨same ▸ opens, ?_⟩⟩
    rw [if_neg first, List.append_assoc]
    refine ⟨blanks ++ other, divides _, skipped other same, ?_⟩
    rintro rfl
    exact some_start (List.head?_eq_none_iff.mp same.symm)

section Fields

variable {fields : List (RecordField ρ)} {seen : List Text} {name : Text} {record value : ρ}

/-- The value of a member is that of the field of its name, which is new. -/
theorem readMemberValue_eq_ok_iff :
    readMemberValue fields seen name record text = .ok (value, rest) ↔
      ∃ field behind, fieldNamed fields name = .ok field ∧ seen.contains name = false ∧
        readMark ':' text = .ok ((), behind) ∧ field.read record behind = .ok (value, rest) := by
  -- A known name, a new one, a colon and a value: the steps in their order.
  unfold readMemberValue
  rw [bind_eq_ok_iff]
  constructor
  · rintro ⟨field, named, found⟩
    split at found
    · cases found
    · rename_i new
      obtain ⟨⟨⟨⟩, behind⟩, marked, read⟩ := bind_eq_ok_iff.mp found
      exact ⟨field, behind, named, eq_false_of_ne_true new, marked, mapError_eq_ok_iff.mp read⟩
  · rintro ⟨field, behind, named, new, marked, read⟩
    refine ⟨field, named, ?_⟩
    rw [if_neg (Bool.not_eq_true _ ▸ new)]
    exact bind_eq_ok_iff.mpr ⟨((), behind), marked, mapError_eq_ok_iff.mpr read⟩

/-- Members are read one after another: a name and its value, and behind them the closing brace or a
comma and what follows it. -/
theorem readRecordMembers_eq_ok_iff {steps : Nat} :
    readRecordMembers fields (steps + 1) seen record text = .ok (value, rest) ↔
      ∃ opened name named read behind, readMark '"' text = .ok ((), opened) ∧
        readText opened = .ok (name, named) ∧
        readMemberValue fields seen name record named = .ok (read, behind) ∧
        ((skipSpace behind = '}' :: rest ∧ value = read) ∨ ∃ left, skipSpace behind = ',' :: left ∧
          readRecordMembers fields steps (name :: seen) read left = .ok (value, rest)) := by
  -- The three readings in front succeed, and the next mark decides.
  rw [readRecordMembers, bind_eq_ok_iff]
  constructor
  · rintro ⟨⟨⟨⟩, opened⟩, quote, found⟩
    obtain ⟨⟨name, named⟩, written, found⟩ := bind_eq_ok_iff.mp found
    obtain ⟨⟨read, behind⟩, member, found⟩ := bind_eq_ok_iff.mp found
    refine ⟨opened, name, named, read, behind, quote, mapError_eq_ok_iff.mp written, member, ?_⟩
    simp only at found
    split at found
    · cases found
    · rename_i closes
      cases found
      exact .inl ⟨closes, rfl⟩
    · rename_i comma
      exact .inr ⟨_, comma, found⟩
    · cases found
  · rintro ⟨opened, name, named, read, behind, quote, written, member, ends⟩
    -- Conversely the readings are put together, and the mark is the one that was found.
    refine ⟨((), opened), quote, bind_eq_ok_iff.mpr ⟨(name, named), mapError_eq_ok_iff.mpr written,
      bind_eq_ok_iff.mpr ⟨(read, behind), member, ?_⟩⟩⟩
    rcases ends with ⟨closes, rfl⟩ | ⟨left, comma, later⟩
    · simp only [closes]
      rfl
    · simp only [comma]
      exact later

/-- Behind all fields the bracket closes the record. -/
theorem readRecordItems_nil_iff {index : Nat} :
    readRecordItems record index [] text = .ok (value, rest) ↔
      readMark ']' text = .ok ((), rest) ∧ value = record := by
  -- No field is left that could read an item.
  rw [readRecordItems, bind_eq_ok_iff]
  constructor
  · rintro ⟨⟨⟨⟩, behind⟩, closes, same⟩
    cases same
    exact ⟨closes, rfl⟩
  · rintro ⟨closes, rfl⟩
    exact ⟨((), rest), closes, rfl⟩

/-- A bracket closes the record in front of a field. -/
theorem readRecordItems_of_closed {index : Nat} {field : RecordField ρ}
    (closes : skipSpace text = ']' :: rest) :
    readRecordItems record index (field :: fields) text = .ok (record, rest) := by
  -- The bracket is looked for before any comma.
  simp only [readRecordItems, closes]
  rfl

/-- An item is read by its field, and the items behind it by the fields that are left. -/
theorem readRecordItems_of_begins {index : Nat} {field : RecordField ρ} {start : Text}
    (begins : BeginsItem index text start) :
    readRecordItems record index (field :: fields) text =
      (do
        let (record, rest) ← (field.read record start).mapError (RecordFault.under (.item index))
        readRecordItems record (index + 1) fields rest) := by
  -- The first item needs no comma, and any other one does.
  obtain ⟨opens, placed⟩ := begins
  by_cases first : index = 0
  · rw [if_pos first] at placed
    subst placed
    simp only [readRecordItems, first, if_true]
    split
    · rename_i closes
      exact absurd (congrArg List.head? closes) opens
    · rfl
  · rw [if_neg first] at placed
    obtain ⟨left, comma, rfl, some_start⟩ := placed
    have marked : readMark ',' (',' :: left) = .ok ((), left) := readMark_eq_ok_iff.mpr rfl
    simp only [readRecordItems, first, if_false, comma]
    refine (congrArg (· >>= _) marked).trans ?_
    dsimp only [bind, Except.bind]
    split
    · rename_i ends
      exact absurd ends some_start
    · rename_i closes
      exact absurd (congrArg List.head? closes) opens
    · rfl

/-- A record of fields that is read is closed in front of them, or begins with an item. -/
theorem closed_or_begins {index : Nat} {field : RecordField ρ}
    (read : readRecordItems record index (field :: fields) text = .ok (value, rest)) :
    (∃ left, skipSpace text = ']' :: left) ∨ ∃ start, BeginsItem index text start := by
  -- A bracket closes the record here; without one an item begins, and only the first has no comma.
  by_cases closes : (skipSpace text).head? = some ']'
  · exact .inl (List.head?_eq_some_iff.mp closes)
  by_cases first : index = 0
  · exact .inr ⟨skipSpace text, closes, by rw [if_pos first]⟩
  · simp only [readRecordItems, first, if_false] at read
    split at read
    · rename_i closed
      exact .inl ⟨_, closed⟩
    · obtain ⟨⟨⟨⟩, left⟩, comma, follows⟩ := bind_eq_ok_iff.mp read
      simp only at follows
      have bare : skipSpace (skipSpace text) = skipSpace text := List.dropWhile_idempotent _ _
      refine .inr ⟨skipSpace left, fun shut => ?_, ?_⟩
      · -- Behind a comma there is an item.
        obtain ⟨tail, shut⟩ := List.head?_eq_some_iff.mp shut
        simp only [shut] at follows
        cases follows
      · rw [if_neg first]
        refine ⟨left, bare.symm.trans (readMark_eq_ok_iff.mp comma), rfl, fun ends => ?_⟩
        simp only [ends] at follows
        cases follows

/-- The bracket closes the record in front of a field, or the item of the field is read. -/
theorem readRecordItems_cons_iff {index : Nat} {field : RecordField ρ} :
    readRecordItems record index (field :: fields) text = .ok (value, rest) ↔
      (skipSpace text = ']' :: rest ∧ value = record) ∨ ∃ start read behind,
        BeginsItem index text start ∧ field.read record start = .ok (read, behind) ∧
          readRecordItems read (index + 1) fields behind = .ok (value, rest) := by
  -- What is read is one of the two, and each of them is read so.
  constructor
  · intro found
    rcases closed_or_begins found with ⟨left, closes⟩ | ⟨start, begins⟩
    · rw [readRecordItems_of_closed closes] at found
      cases found
      exact .inl ⟨closes, rfl⟩
    · rw [readRecordItems_of_begins begins] at found
      obtain ⟨⟨read, behind⟩, item, later⟩ := bind_eq_ok_iff.mp found
      exact .inr ⟨start, read, behind, begins, mapError_eq_ok_iff.mp item, later⟩
  · rintro (⟨closes, rfl⟩ | ⟨start, read, behind, begins, item, later⟩)
    · exact readRecordItems_of_closed closes
    · rw [readRecordItems_of_begins begins]
      exact bind_eq_ok_iff.mpr ⟨(read, behind), mapError_eq_ok_iff.mpr item, later⟩

variable (peeks : ∀ field ∈ fields, ∀ record, Peeks (field.read record))
include peeks

/-- The value of a member is read up to the next character. -/
theorem peeks_readMemberValue (seen : List Text) (name : Text) (record : ρ) :
    Peeks (readMemberValue fields seen name record) := by
  -- The colon and the value are read one behind the other.
  intro text value rest found
  obtain ⟨field, behind, named, new, marked, read⟩ := readMemberValue_eq_ok_iff.mp found
  obtain ⟨front, _, rfl, found_mark⟩ := takes_readMark ':' marked
  obtain ⟨back, rfl, again⟩ := peeks field (mem_of_fieldNamed named) record read
  refine ⟨front ++ back, by simp, fun more same => ?_⟩
  rw [List.append_assoc]
  exact readMemberValue_eq_ok_iff.mpr ⟨field, _, named, new, found_mark _, again more same⟩

/-- Members are read up to the closing brace, in as many steps as they have characters. -/
theorem exists_front_of_readRecordMembers {steps : Nat}
    (found : readRecordMembers fields steps seen record text = .ok (value, rest)) :
    ∃ front, front ≠ [] ∧ text = front ++ rest ∧ ∀ (more : Text) (steps : Nat),
      front.length ≤ steps →
        readRecordMembers fields steps seen record (front ++ more) = .ok (value, more) := by
  -- By induction on the steps: a member, and the brace or a comma with more members.
  induction steps generalizing seen record text with
  | zero => cases found
  | succ steps ih =>
    obtain ⟨_, name, _, read, behind, quote, written, member, ends⟩ :=
      readRecordMembers_eq_ok_iff.mp found
    obtain ⟨opening, some_opening, rfl, opens⟩ := takes_readMark '"' quote
    obtain ⟨spelling, _, rfl, spells⟩ := takes_readText written
    obtain ⟨front, rfl, again⟩ := peeks_readMemberValue peeks _ _ _ member
    have some_length := List.length_pos_iff.mpr some_opening
    rcases ends with ⟨closes, rfl⟩ | ⟨left, comma, later⟩
    · -- The last member is followed by the brace in the longer text as well.
      obtain ⟨closing, some_closing, rfl, shuts⟩ := exists_front_of_mark closes
      refine ⟨opening ++ (spelling ++ (front ++ closing)),
        List.append_ne_nil_of_left_ne_nil some_opening _, by simp, fun more steps room => ?_⟩
      obtain ⟨steps, rfl⟩ : ∃ left, steps = left + 1 :=
        ⟨steps - 1, by rw [List.length_append] at room; omega⟩
      simp only [List.append_assoc]
      refine readRecordMembers_eq_ok_iff.mpr ⟨_, name, _, value, closing ++ more, opens _,
        spells _, again _ ?_, .inl ⟨shuts more, rfl⟩⟩
      rw [List.head?_append_of_ne_nil _ some_closing, List.head?_append_of_ne_nil _ some_closing]
    · -- Any other is followed by its comma, and the members behind take the steps that are left.
      obtain ⟨dividing, some_dividing, rfl, divides⟩ := exists_front_of_mark comma
      obtain ⟨back, _, rfl, follows⟩ := ih later
      refine ⟨opening ++ (spelling ++ (front ++ (dividing ++ back))),
        List.append_ne_nil_of_left_ne_nil some_opening _, by simp, fun more steps room => ?_⟩
      simp only [List.length_append] at room
      obtain ⟨steps, rfl⟩ : ∃ left, steps = left + 1 := ⟨steps - 1, by omega⟩
      simp only [List.append_assoc]
      refine readRecordMembers_eq_ok_iff.mpr ⟨_, name, _, read, dividing ++ (back ++ more), opens _,
        spells _, again _ ?_, .inr ⟨_, divides _, follows more steps (by omega)⟩⟩
      rw [List.head?_append_of_ne_nil _ some_dividing,
        List.head?_append_of_ne_nil _ some_dividing]

/-- What follows the opening brace of a record is taken up to the closing one. -/
theorem takes_readRecordObject (record : ρ) : Takes (readRecordObject fields record) := by
  intro text value rest found
  unfold readRecordObject at found
  split at found
  · rename_i closes
    cases found
    -- An empty object is taken up to its brace.
    obtain ⟨front, some_front, whole, again⟩ := exists_front_of_mark closes
    refine ⟨front, some_front, whole, fun more => ?_⟩
    simp only [readRecordObject, again more]
  · obtain ⟨front, some_front, rfl, again⟩ := exists_front_of_readRecordMembers peeks found
    refine ⟨front, some_front, rfl, fun more => ?_⟩
    have read := again more ((front ++ more).length + 1) (by simp; omega)
    -- The first name begins with a quote, so no brace closes the record in front of it.
    obtain ⟨_, _, _, _, _, quote, _⟩ := readRecordMembers_eq_ok_iff.mp read
    unfold readRecordObject
    split
    · rename_i closes
      rw [readMark_eq_ok_iff, closes] at quote
      cases quote
    · exact read

/-- What follows the opening bracket of a record is taken up to the closing one. -/
theorem takes_readRecordItems (record : ρ) (index : Nat) :
    Takes (readRecordItems record index fields) := by
  induction fields generalizing record index with
  | nil =>
    intro text value rest found
    -- Without fields only the closing bracket may follow.
    obtain ⟨closes, rfl⟩ := readRecordItems_nil_iff.mp found
    obtain ⟨front, some_front, whole, again⟩ := takes_readMark ']' closes
    exact ⟨front, some_front, whole, fun more => readRecordItems_nil_iff.mpr ⟨again more, rfl⟩⟩
  | cons field fields ih =>
    intro text value rest found
    rcases readRecordItems_cons_iff.mp found with
      ⟨closes, rfl⟩ | ⟨start, read, behind, begins, item, later⟩
    · obtain ⟨front, some_front, whole, again⟩ := exists_front_of_mark closes
      exact ⟨front, some_front, whole, fun more =>
        readRecordItems_cons_iff.mpr (.inl ⟨again more, rfl⟩)⟩
    · have others : ∀ field ∈ fields, ∀ record, Peeks (field.read record) :=
        fun other inside => peeks other (List.mem_cons_of_mem _ inside)
      obtain ⟨back, some_back, rfl, follows⟩ := ih others read (index + 1) later
      obtain ⟨middle, rfl, again⟩ := peeks field (List.mem_cons_self) record item
      obtain ⟨front, rfl, opens⟩ := begins.exists_front
      refine ⟨front ++ (middle ++ back), by simp [some_back], by simp, fun more => ?_⟩
      -- The items behind this one are not empty, so it is followed by what followed it.
      have next : (back ++ more).head? = (back ++ rest).head? := by
        rw [List.head?_append_of_ne_nil _ some_back, List.head?_append_of_ne_nil _ some_back]
      simp only [List.append_assoc]
      exact readRecordItems_cons_iff.mpr (.inr ⟨_, read, back ++ more,
        opens _ (head?_append_of_head? next middle), again _ next, follows more⟩)

/-- What is read of a record behind its first token. -/
def readRecordFrom (title : Text) (fields : List (RecordField ρ)) (record : ρ) (token : Token) :
    RecordReader ρ := fun text =>
  match token with
  | .objectStart => readRecordObject fields record text
  | .arrayStart => readRecordItems record 0 fields text
  | _ => throw (.data (unexpected token.value ("struct ".toList ++ title)))

/-- A record is taken up to its closing bracket. -/
theorem takes_readRecord (title : Text) (record : ρ) : Takes (readRecord title fields record) := by
  -- Its first token decides what its body is.
  have body (token : Token) : Takes (readRecordFrom title fields record token) := by
    cases token with
    | objectStart => exact takes_readRecordObject peeks record
    | arrayStart => exact takes_readRecordItems peeks record 0
    | null | bool | number | string =>
      intro text value rest found
      cases found
  exact peeks_nextToken.bind_takes body

end Fields

end RelyingParty.Json
