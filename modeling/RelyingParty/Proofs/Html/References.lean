import Mathlib.Data.List.Forall2
import RelyingParty.Html.Entity
import RelyingParty.Proofs.Text.Numeral

/-! A text is decoded from whatever references and characters it is written in. -/

namespace RelyingParty.Html

/-- The characters that have a named reference, with the names. -/
def namedReferences : List (Char × Text) :=
  [('&', "amp"), ('<', "lt"), ('>', "gt"), ('"', "quot"), ('\'', "apos")]

/-- Whether a character is written as a text: as itself, as a reference to its number, or as a
reference to its name. -/
inductive Spelling (c : Char) : Text → Prop
  -- An ampersand as itself might begin a reference.
  | literal (plain : c ≠ '&') : Spelling c [c]
  | decimal (digits : Text) (numeral : Text.IsNumeralIn 10 c.toNat digits) :
      Spelling c ('&' :: '#' :: (digits ++ [';']))
  | hexadecimal (mark : Char) (digits : Text) (marked : mark = 'x' ∨ mark = 'X')
      (numeral : Text.IsNumeralIn 16 c.toNat digits) :
      Spelling c ('&' :: '#' :: mark :: (digits ++ [';']))
  | named (name : Text) (known : (c, name) ∈ namedReferences) : Spelling c ('&' :: (name ++ [';']))

/-- Every character is the one with its number. -/
theorem charOfCode?_toNat (c : Char) : charOfCode? c.toNat = some c := by
  -- Its number is one of a character.
  have valid : c.toNat.isValidChar := c.valid
  rw [charOfCode?, if_pos valid, Char.ofNat_toNat]

/-- A number sign and a mark introduce a number in base sixteen. -/
theorem referenced?_hexadecimal {mark : Char} (marked : mark = 'x' ∨ mark = 'X') (digits : Text) :
    referenced? ('#' :: mark :: digits) = (Text.digits? 16 digits).bind charOfCode? := by
  -- The two marks are two cases of the reader.
  rcases marked with rfl | rfl
  · simp [referenced?]
  · simp [referenced?]

/-- A number sign without such a mark introduces a number in base ten. -/
theorem referenced?_decimal {digits : Text} (unmarked : 'x' ∉ digits ∧ 'X' ∉ digits) :
    referenced? ('#' :: digits) = (Text.digits? 10 digits).bind charOfCode? := by
  -- None of the names begins with a number sign.
  simp only [referenced?, String.reduceToList, List.cons.injEq, Char.reduceEq, false_and,
    ↓reduceIte]
  split
  · -- The two marks would be among the digits.
    rename_i same
    cases same
    exact absurd (List.mem_cons_self ..) unmarked.1
  · rename_i same
    cases same
    exact absurd (List.mem_cons_self ..) unmarked.2
  · rename_i same
    cases same
    rfl
  · rename_i other
    exact absurd rfl (other digits)

/-- The character of a reference is read up to the semicolon. -/
theorem reference?_append {c : Char} {name : Text} (closed : ';' ∉ name)
    (known : referenced? name = some c) (rest : Text) :
    reference? (name ++ ';' :: rest) = some (c, name.length + 1) := by
  -- The name has no semicolon, so the text is cut behind it.
  rw [reference?, Text.splitFirst_eq_some_iff.mpr ⟨rfl, closed⟩]
  simp only [known, Option.map_some]

/-- A character that is no ampersand is left as it is. -/
theorem unescape_cons {c : Char} (plain : c ≠ '&') (rest : Text) :
    unescape (c :: rest) = c :: unescape rest := by
  rw [unescape, if_neg plain]

/-- A reference is replaced by its character, and decoding goes on behind it. -/
theorem unescape_reference {c : Char} {name : Text} (closed : ';' ∉ name)
    (known : referenced? name = some c) (rest : Text) :
    unescape ('&' :: (name ++ ';' :: rest)) = c :: unescape rest := by
  -- What is dropped is the name with its semicolon.
  have behind : (name ++ ';' :: rest).drop (name.length + 1) = rest := by
    rw [List.append_cons]
    exact List.drop_left' (by simp)
  rw [unescape, if_pos rfl, reference?_append closed known]
  simp only [behind]

/-- A mark that is no digit stands in no numeral. -/
theorem not_mem_of_isNumeralIn {base n : Nat} {mark : Char} {digits : Text}
    (known : base ∈ [10, 16]) (other : Text.digitValue? base mark = none)
    (numeral : Text.IsNumeralIn base n digits) : mark ∉ digits := by
  -- Every character of a numeral has a value.
  intro inside
  have value := Text.isSome_digitValue?_of_isNumeralIn known numeral mark inside
  rw [other] at value
  cases value

/-- A spelling is the character itself, or a reference that names it. -/
theorem Spelling.literal_or_reference {c : Char} {written : Text} (spelled : Spelling c written) :
    c ≠ '&' ∧ written = [c] ∨
      ∃ name, written = '&' :: (name ++ [';']) ∧ ';' ∉ name ∧ referenced? name = some c := by
  -- Each kind of spelling has its own name between ampersand and semicolon.
  cases spelled with
  | literal plain => exact .inl ⟨plain, rfl⟩
  | decimal digits numeral =>
    have absent : ∀ mark, Text.digitValue? 10 mark = none → mark ∉ digits :=
      fun _ other => not_mem_of_isNumeralIn (by decide) other numeral
    refine .inr ⟨'#' :: digits, rfl, ?_, ?_⟩
    · exact List.not_mem_cons_of_ne_of_not_mem (by decide) (absent ';' (by decide))
    · rw [referenced?_decimal ⟨absent 'x' (by decide), absent 'X' (by decide)⟩,
        Text.digits?_of_isNumeralIn (by decide) numeral, Option.bind_some, charOfCode?_toNat]
  | hexadecimal mark digits marked numeral =>
    have absent : ';' ∉ digits := not_mem_of_isNumeralIn (by decide) (by decide) numeral
    have apart : ';' ≠ mark := by rcases marked with rfl | rfl <;> decide
    refine .inr ⟨'#' :: mark :: digits, rfl, ?_, ?_⟩
    · exact List.not_mem_cons_of_ne_of_not_mem (by decide)
        (List.not_mem_cons_of_ne_of_not_mem apart absent)
    · rw [referenced?_hexadecimal marked, Text.digits?_of_isNumeralIn (by decide) numeral,
        Option.bind_some, charOfCode?_toNat]
  | named name known =>
    -- Each name is tried.
    have each : ∀ entry ∈ namedReferences,
        ';' ∉ entry.2 ∧ referenced? entry.2 = some entry.1 := by
      decide
    exact .inr ⟨name, rfl, each _ known⟩

/-- A character is decoded from each of its spellings, and decoding goes on behind it. -/
theorem Spelling.unescape_append {c : Char} {written : Text} (spelled : Spelling c written)
    (rest : Text) : unescape (written ++ rest) = c :: unescape rest := by
  -- All kinds of references are decoded alike, by what they name.
  rcases spelled.literal_or_reference with ⟨plain, rfl⟩ | ⟨name, rfl, closed, known⟩
  · exact unescape_cons plain rest
  · have shape : '&' :: (name ++ [';']) ++ rest = '&' :: (name ++ ';' :: rest) := by simp
    rw [shape, unescape_reference closed known]

/-- A text is decoded from every spelling of its characters one behind the other: what is decoded
is not decoded again, even when it looks like a reference together with what stands behind it. -/
theorem unescape_spelled {text : Text} {written : List Text}
    (spelled : List.Forall₂ Spelling text written) : unescape written.flatten = text := by
  -- By induction on the text: each spelling is decoded and left behind.
  induction spelled with
  | nil => simp [unescape]
  | cons spelling spelled ih => rw [List.flatten_cons, spelling.unescape_append, ih]

/-- An ampersand that is decoded in front of what looks like the rest of a reference is left there,
and characters beyond the basic plane are read from numbers behind zeros. -/
theorem unescape_spelled_once :
    let text : Text := "&lt;'é😀"
    let written : List Text :=
      ["&#0038;", "l", "t", ";", "&apos;", "é", "&#X01f600;"].map String.toList
    List.Forall₂ Spelling text written ∧ unescape written.flatten = text := by
  intro text written
  -- One spelling for each character, of every kind.
  have ampersand : Spelling '&' "&#0038;".toList :=
    .decimal "0038".toList ⟨2, "38".toList, by decide, by decide⟩
  have quote : Spelling '\'' "&apos;".toList := .named "apos".toList (by decide)
  have face : Spelling '😀' "&#X01f600;".toList :=
    .hexadecimal 'X' "01f600".toList (.inr rfl) ⟨1, "1f600".toList, by decide, by decide⟩
  have plain : ∀ c, c ≠ '&' → Spelling c [c] := fun _ => .literal
  have spelled : List.Forall₂ Spelling text written :=
    .cons ampersand (.cons (plain 'l' (by decide)) (.cons (plain 't' (by decide))
      (.cons (plain ';' (by decide)) (.cons quote (.cons (plain 'é' (by decide))
        (.cons face .nil))))))
  exact ⟨spelled, unescape_spelled spelled⟩

end RelyingParty.Html
