import Mathlib.Data.List.Basic
import RelyingParty.Text

/-! The parts of a text between its marks, and when those of one text lead or end those of
another. -/

namespace RelyingParty.Text

/-- A text is parted as any list is. -/
theorem splitWhere_eq_splitOnP (isMark : Char → Bool) (text : Text) :
    splitWhere isMark text = text.splitOnP isMark := by
  induction text with
  | nil => rfl
  | cons c rest ih =>
    rw [splitWhere, List.splitOnP_cons_eq_if_modifyHead, ih]
    split
    · rfl
    · -- The first character joins the first part, and there is always one.
      cases parts : List.splitOnP isMark rest with
      | nil => exact absurd parts (List.splitOnP_ne_nil isMark rest)
      | cons part parts => rfl

/-- So it is at one mark. -/
theorem splitAll_eq_splitOn (mark : Char) (text : Text) :
    splitAll mark text = text.splitOn mark := by
  -- Both cut where a test holds, and the test is equality with the mark.
  rw [splitAll, splitWhere_eq_splitOnP, List.splitOn_eq_splitOnP]
  congr

/-- There is always a part. -/
theorem splitAll_ne_nil (mark : Char) (text : Text) : splitAll mark text ≠ [] := by
  rw [splitAll_eq_splitOn]
  exact List.splitOn_ne_nil mark text

/-- A mark ends the parts before it. -/
theorem splitAll_append_mark (mark : Char) (front back : Text) :
    splitAll mark (front ++ mark :: back) = splitAll mark front ++ splitAll mark back := by
  simp only [splitAll_eq_splitOn]
  exact List.splitOn_append_cons_self front back

/-- A text is its parts with the mark between them. -/
theorem intercalate_splitAll (mark : Char) (text : Text) :
    [mark].intercalate (splitAll mark text) = text := by
  rw [splitAll_eq_splitOn]
  exact List.intercalate_splitOn mark

/-- A text is known by its parts. -/
theorem splitAll_inj {mark : Char} {text other : Text} :
    splitAll mark text = splitAll mark other ↔ text = other := by
  -- The text is put together again from its parts.
  constructor
  · intro same
    rw [← intercalate_splitAll mark text, same, intercalate_splitAll]
  · exact congrArg (splitAll mark)

/-- Between some parts and others there is one mark more. -/
theorem intercalate_append (mark : Char) {front back : List Text} (first : front ≠ [])
    (last : back ≠ []) :
    [mark].intercalate (front ++ back) =
      [mark].intercalate front ++ mark :: [mark].intercalate back := by
  -- Only the last part of the front meets the back, and gets the mark between them.
  induction front with
  | nil => exact absurd rfl first
  | cons part front ih =>
    cases front with
    | nil => simp [List.intercalate_cons_of_ne_nil last]
    | cons next front =>
      have rest := ih (List.cons_ne_nil next front)
      rw [List.cons_append, List.intercalate_cons_of_ne_nil (by simp), rest,
        List.intercalate_cons_of_ne_nil (List.cons_ne_nil next front)]
      simp

/-- A character other than the mark is in one of the parts. -/
theorem mem_intercalate_iff {mark c : Char} (other : c ≠ mark) {parts : List Text} :
    c ∈ [mark].intercalate parts ↔ ∃ part ∈ parts, c ∈ part := by
  -- The mark between parts is another character.
  induction parts with
  | nil => simp
  | cons part parts ih =>
    by_cases last : parts = []
    · simp [last]
    · rw [List.intercalate_cons_of_ne_nil last]
      simp [other, ih]

/-- Between parts that do not have a character it stands only as the mark. -/
theorem not_mem_intercalate {mark c : Char} (other : c ≠ mark) {parts : List Text}
    (absent : ∀ part ∈ parts, c ∉ part) : c ∉ [mark].intercalate parts := by
  -- Any character of the whole but the mark comes from a part.
  rw [mem_intercalate_iff other]
  rintro ⟨part, among, inside⟩
  exact absent part among inside

/-- A text whose parts are some and others behind them has a mark where the others begin. -/
theorem eq_of_splitAll_eq_append {mark : Char} {text : Text} {front back : List Text}
    (first : front ≠ []) (last : back ≠ []) (parts : splitAll mark text = front ++ back) :
    text = [mark].intercalate front ++ mark :: [mark].intercalate back := by
  rw [← intercalate_append mark first last, ← parts, intercalate_splitAll]

/-- The parts of a text begin those of another when this one is the same, or goes on at a mark. -/
theorem splitAll_prefix_iff {mark : Char} {start whole : Text} :
    splitAll mark start <+: splitAll mark whole ↔
      whole = start ∨ ∃ rest, whole = start ++ mark :: rest := by
  constructor
  · rintro ⟨others, parts⟩
    by_cases none : others = []
    · rw [none, List.append_nil] at parts
      exact .inl (splitAll_inj.mp parts.symm)
    · have whole := eq_of_splitAll_eq_append (splitAll_ne_nil mark start) none parts.symm
      -- The parts that are left make up what stands behind the mark.
      rw [intercalate_splitAll] at whole
      exact .inr ⟨_, whole⟩
  · rintro (rfl | ⟨rest, rfl⟩)
    · exact List.prefix_rfl
    · rw [splitAll_append_mark]
      exact List.prefix_append _ _

/-- The parts of a text end those of another when this one is the same, or has it behind a mark. -/
theorem splitAll_suffix_iff {mark : Char} {last whole : Text} :
    splitAll mark last <:+ splitAll mark whole ↔
      whole = last ∨ ∃ front, whole = front ++ mark :: last := by
  constructor
  · rintro ⟨others, parts⟩
    by_cases none : others = []
    · rw [none, List.nil_append] at parts
      exact .inl (splitAll_inj.mp parts.symm)
    · have whole := eq_of_splitAll_eq_append none (splitAll_ne_nil mark last) parts.symm
      -- The parts in front make up what stands before the mark.
      rw [intercalate_splitAll] at whole
      exact .inr ⟨_, whole⟩
  · rintro (rfl | ⟨front, rfl⟩)
    · exact List.suffix_rfl
    · rw [splitAll_append_mark]
      exact List.suffix_append _ _

/-- A mark at the end of a text has an empty part behind it. -/
theorem splitAll_append_singleton (mark : Char) (front : Text) :
    splitAll mark (front ++ [mark]) = splitAll mark front ++ [[]] :=
  splitAll_append_mark mark front []

/-- The last part of a text is empty when the text ends with the mark, or is empty itself. -/
theorem getLast?_splitAll_eq_nil_iff {mark : Char} {text : Text} (nonempty : text ≠ []) :
    (splitAll mark text).getLast? = some [] ↔ ∃ front, text = front ++ [mark] := by
  constructor
  · intro ends
    obtain ⟨front, parts⟩ := List.getLast?_eq_some_iff.mp ends
    by_cases none : front = []
    · -- The empty text alone has nothing but an empty part.
      rw [none] at parts
      exact absurd (splitAll_inj.mp parts) nonempty
    · exact ⟨_, eq_of_splitAll_eq_append none (by simp) parts⟩
  · rintro ⟨front, rfl⟩
    simp [splitAll_append_singleton]

/-- Whether the parts of a text lead those of another. An empty last part only says that the text
ends with the mark; behind the parts in front of it there has to be another one. -/
def Leads (mark : Char) (start whole : Text) : Prop :=
  if (splitAll mark start).getLast? = some [] then
    (splitAll mark start).dropLast <+: splitAll mark whole ∧
      (splitAll mark start).dropLast ≠ splitAll mark whole
  else splitAll mark start <+: splitAll mark whole

instance (mark : Char) (start whole : Text) : Decidable (Leads mark start whole) :=
  inferInstanceAs (Decidable (if (splitAll mark start).getLast? = some [] then
    (splitAll mark start).dropLast <+: splitAll mark whole ∧
      (splitAll mark start).dropLast ≠ splitAll mark whole
    else splitAll mark start <+: splitAll mark whole))

/-- The parts of a text lead those of another exactly when this one begins with the text, and goes
on at a mark if it goes on: the last character of the text, or the next one. -/
theorem leads_iff {mark : Char} {start whole : Text} (nonempty : start ≠ []) :
    Leads mark start whole ↔ ∃ rest, whole = start ++ rest ∧
      (rest = [] ∨ start.getLast? = some mark ∨ rest.head? = some mark) := by
  unfold Leads
  by_cases ends : (splitAll mark start).getLast? = some []
  · -- The mark at the end is where the parts in front of it go on.
    rw [if_pos ends]
    obtain ⟨front, rfl⟩ := (getLast?_splitAll_eq_nil_iff nonempty).mp ends
    rw [splitAll_append_singleton, List.dropLast_concat, splitAll_prefix_iff, ne_eq, splitAll_inj]
    constructor
    · rintro ⟨rfl | ⟨rest, rfl⟩, differs⟩
      · exact absurd rfl differs
      · exact ⟨rest, by simp, .inr (.inl (by simp))⟩
    · rintro ⟨rest, rfl, _⟩
      exact ⟨.inr ⟨rest, by simp⟩, by simp⟩
  · rw [if_neg ends, splitAll_prefix_iff]
    constructor
    · rintro (rfl | ⟨rest, rfl⟩)
      · exact ⟨[], by simp, .inl rfl⟩
      · exact ⟨mark :: rest, rfl, .inr (.inr rfl)⟩
    · rintro ⟨rest, rfl, none | last | next⟩
      · exact .inl (by simp [none])
      · -- A mark at the end would have left an empty part.
        obtain ⟨front, same⟩ := List.getLast?_eq_some_iff.mp last
        exact absurd ((getLast?_splitAll_eq_nil_iff nonempty).mpr ⟨front, same⟩) ends
      · obtain ⟨rest, rfl⟩ := List.head?_eq_some_iff.mp next
        exact .inr ⟨rest, rfl⟩

end RelyingParty.Text
