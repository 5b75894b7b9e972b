import Mathlib.Data.List.DropRight
import RelyingParty.Text.Blank

/-! What trimming takes off a text: blanks in front and at the end, and nothing else. -/

namespace RelyingParty.Text

/-- A text stays as it is when it neither begins nor ends with a blank. -/
theorem trim_eq_self_of_ends {text : Text} (first : text.head?.any isBlank = false)
    (last : text.getLast?.any isBlank = false) : trim text = text := by
  -- Nothing is dropped in front, nor of the reversed text.
  have kept (part : Text) (first : part.head?.any isBlank = false) :
      part.dropWhile isBlank = part := by
    cases part with
    | nil => rfl
    | cons c rest =>
      have solid : isBlank c = false := first
      rw [List.dropWhile_cons_of_neg (by simp [solid])]
  rw [← List.head?_reverse] at last
  rw [trim, trimWhere, kept text first, kept text.reverse last, List.reverse_reverse]

/-- A text without blanks stays as it is. -/
theorem trim_eq_self {text : Text} (plain : ∀ c ∈ text, isBlank c = false) : trim text = text := by
  have solid (c? : Option Char) (inside : ∀ c ∈ c?, c ∈ text) : c?.any isBlank = false := by
    cases c? with
    | none => rfl
    | some c => exact plain c (inside c rfl)
  -- Both ends are characters of the text.
  exact trim_eq_self_of_ends (solid _ fun _ => List.mem_of_head?)
    (solid _ fun _ => List.mem_of_getLast?)

/-- A blank in front is taken off. -/
theorem trim_cons {c : Char} (blank : isBlank c = true) (text : Text) :
    trim (c :: text) = trim text := by
  rw [trim, trim, trimWhere, trimWhere, List.dropWhile_cons_of_pos blank]

variable {p : Char → Bool}

/-- Blanks at the end are taken off what is left of those in front. -/
theorem trimWhere_append_blanks (p : Char → Bool) (text : Text) :
    trimWhere p text ++ (text.dropWhile p).rtakeWhile p = text.dropWhile p :=
  List.rdropWhile_append_rtakeWhile

/-- A character that is no blank is not dropped, and neither is what is left in front of it. -/
theorem dropWhile_concat {c : Char} (solid : p c = false) (text : Text) :
    (text ++ [c]).dropWhile p = text.dropWhile p ++ [c] := by
  rw [List.dropWhile_append]
  -- Either all of the text is dropped, and the character stays, or it stands behind what stays.
  cases text.dropWhile p with
  | nil => simp [solid]
  | cons d rest => rfl

/-- In front of a character that is no blank the blanks at the end stay. -/
theorem trimWhere_concat {c : Char} (solid : p c = false) (text : Text) :
    trimWhere p (text ++ [c]) = trimWhere p text ++ (text.dropWhile p).rtakeWhile p ++ [c] := by
  have kept := List.rdropWhile_concat_neg p (text.dropWhile p) c (by simp [solid])
  rw [trimWhere_append_blanks, ← kept, ← dropWhile_concat solid]
  rfl

end RelyingParty.Text
