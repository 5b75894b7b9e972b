import Mathlib.Data.List.Perm.Basic
import RelyingParty.Accept
import RelyingParty.Proofs.Except
import RelyingParty.Proofs.Number.Value
import RelyingParty.Proofs.Sort
import RelyingParty.Proofs.Text
import RelyingParty.Proofs.Text.Blank
import RelyingParty.Proofs.Text.Parts

/-! A header that is written for some preferences is read as ranges that state them: each with its
quality in tenths, the best ones first and those of one quality by media type. -/

namespace RelyingParty

namespace Accept

/-- The media type of a range. -/
def MediaRange.mediaType (range : MediaRange) : Text := range.main ++ '/' :: range.sub

/-- The quality of a preference, which is one when it names none. -/
def Preference.value (preference : Preference) : ℚ :=
  (preference.quality.map Binary64.value).getD 1

/-- Whether a range states a preference: it has its media type, cut at the first slash, and the
number nearest to its quality in tenths. -/
structure Preference.StatedBy (preference : Preference) (range : MediaRange) : Prop where
  mediaType : range.mediaType = preference.mediaType
  cut : '/' ∉ range.main
  quality : ∃ n : ℕ, IsNearestNat (10 * preference.value) n ∧ range.quality.IsNearest (n / 10)

/-- Whether a text can stand in a header as a media type: it has a slash, no mark of the header, and
no blank. -/
def IsPlain (mediaType : Text) : Prop :=
  '/' ∈ mediaType ∧ ∀ c ∈ mediaType, c ≠ ',' ∧ c ≠ ';' ∧ Text.isBlank c = false

instance (mediaType : Text) : Decidable (IsPlain mediaType) :=
  -- The characters of the text are gone through, not all characters that there are.
  decidable_of_iff ('/' ∈ mediaType ∧
    mediaType.all (fun c => c ≠ ',' ∧ c ≠ ';' ∧ Text.isBlank c = false) = true)
    (by simp only [IsPlain, List.all_eq_true, decide_eq_true_eq])

/-- The tenths that a preference is written with. -/
def Preference.tenths (preference : Preference) : ℕ :=
  match preference.quality with
  | none => 10
  | some quality => quality.tenths

/-- A preference in tenths. -/
def Preference.entry (preference : Preference) : ℕ × Text :=
  (preference.tenths, preference.mediaType)

/-- The text of the tenths of an entry. -/
def written (entry : ℕ × Text) : Text × Text := (Binary64.tenthsText entry.1, entry.2)

/-- Whether an entry stands before another: by tenths and then by media type. -/
def isBefore (a b : ℕ × Text) : Bool := a.1 < b.1 || (a.1 == b.1 && !(b.2 < a.2))

/-- The range that an entry is read as. -/
def rangeOf (entry : ℕ × Text) : MediaRange :=
  let (main, sub) := (Text.splitFirst '/' entry.2).getD (entry.2, [])
  ⟨main, sub, Binary64.ofRatio false entry.1 10⟩

/-- A quality passes the check when it is above zero and up to one; without one the check is
passed. -/
theorem Preference.all_isPositiveUnit_iff {preference : Preference} :
    preference.quality.all Binary64.isPositiveUnit = true ↔
      0 < preference.value ∧ preference.value ≤ 1 := by
  obtain ⟨mediaType, quality⟩ := preference
  -- Without a quality the value is one.
  cases quality with
  | none => norm_num [value]
  | some quality => exact Binary64.isPositiveUnit_iff

/-- A preference of a quality above zero and up to one is written in tenths. -/
theorem Preference.qualityText_eq {preference : Preference}
    (legal : 0 < preference.value ∧ preference.value ≤ 1) :
    preference.qualityText = .ok (Binary64.tenthsText preference.tenths) ∧
      IsNearestNat (10 * preference.value) preference.tenths := by
  obtain ⟨mediaType, quality⟩ := preference
  cases quality with
  | none =>
    -- Without a quality the text of ten tenths is written, and ten are nearest to them.
    have full : Binary64.tenthsText 10 = "1.0".toList := by decide
    refine ⟨congrArg Except.ok full.symm, ?_⟩
    norm_num [value, tenths, IsNearestNat]
  | some quality =>
    have unit : quality.isPositiveUnit = true := all_isPositiveUnit_iff.mpr legal
    have unsigned : quality.negative = false := Binary64.unsigned_of_pos legal.1
    refine ⟨if_pos unit, ?_⟩
    exact (Binary64.tenths_eq_iff unsigned).mp rfl

/-- It has at most ten tenths. -/
theorem Preference.tenths_le {preference : Preference}
    (legal : 0 < preference.value ∧ preference.value ≤ 1) : preference.tenths ≤ 10 := by
  obtain ⟨near, _⟩ := (qualityText_eq legal).2
  rw [abs_le] at near
  -- Eleven tenths are further than half a tenth from all that is up to one.
  have below : (preference.tenths : ℚ) < 11 := by linarith [legal.2]
  have below : preference.tenths < 11 := by exact_mod_cast below
  omega

/-- The texts of tenths are in the order of their numbers. -/
theorem entryLe_written {a b : ℕ × Text} (small : a.1 ≤ 10) (small' : b.1 ≤ 10) :
    entryLe (written a) (written b) = isBefore a b := by
  -- All of the texts have three characters, of which those of ten begin with the greatest digit.
  have each : ∀ m ≤ 10, ∀ n ≤ 10,
      (Binary64.tenthsText m < Binary64.tenthsText n ↔ m < n) ∧
        (Binary64.tenthsText m == Binary64.tenthsText n) = (m == n) := by
    decide +kernel
  obtain ⟨less, same⟩ := each a.1 small b.1 small'
  unfold entryLe isBefore written
  dsimp only
  rw [decide_eq_decide.mpr less, same]

/-- An entry stands before another with more tenths, or with as many and no lower media type. -/
theorem isBefore_iff {a b : ℕ × Text} :
    isBefore a b = true ↔ a.1 < b.1 ∨ a.1 = b.1 ∧ ¬b.2 < a.2 := by
  simp [isBefore]

/-- The order of entries is transitive. -/
theorem isBefore_trans (a b c : ℕ × Text) (first : isBefore a b = true)
    (second : isBefore b c = true) : isBefore a c = true := by
  rw [isBefore_iff] at first second ⊢
  -- The tenths decide unless all three entries have as many of them.
  rcases first with less | ⟨same, order⟩
  · left
    rcases second with less' | ⟨same', _⟩
    · exact less.trans less'
    · exact less.trans_eq same'
  · rcases second with less' | ⟨same', order'⟩
    · exact .inl (same.trans_lt less')
    · exact .inr ⟨same.trans same', List.le_trans order order'⟩

/-- Any two entries can be compared. -/
theorem isBefore_total (a b : ℕ × Text) : (isBefore a b || isBefore b a) = true := by
  rw [Bool.or_eq_true, isBefore_iff, isBefore_iff]
  -- Different tenths decide, and else any two texts can be compared.
  rcases Nat.lt_trichotomy a.1 b.1 with less | same | greater
  · exact .inl (.inl less)
  · rcases List.le_total a.2 b.2 with order | order
    · exact .inl (.inr ⟨same, order⟩)
    · exact .inr (.inr ⟨same.symm, order⟩)
  · exact .inr (.inl greater)

/-- The header for preferences has their entries in order. -/
theorem generate_eq {preferences : List Preference}
    (legal : ∀ preference ∈ preferences, 0 < preference.value ∧ preference.value ≤ 1) :
    generate preferences = .ok (List.intercalate ", "
      (((preferences.map Preference.entry).mergeSort isBefore).map
        fun entry => entryText (written entry))) := by
  have small : ∀ entry ∈ preferences.map Preference.entry, entry.1 ≤ 10 := by
    intro entry inside
    obtain ⟨preference, member, rfl⟩ := List.mem_map.mp inside
    exact Preference.tenths_le (legal preference member)
  -- No preference is refused.
  have entries : (preferences.mapM fun preference => do
      return (← preference.qualityText, preference.mediaType)) =
      .ok ((preferences.map Preference.entry).map written) := by
    rw [List.map_map]
    apply mapM_eq_ok
    intro preference member
    rw [(Preference.qualityText_eq (legal preference member)).1]
    rfl
  -- The texts of the entries are compared as their tenths are.
  have sorted : ((preferences.map Preference.entry).map written).mergeSort entryLe =
      ((preferences.map Preference.entry).mergeSort isBefore).map written := by
    refine (List.map_mergeSort fun a first b second => ?_).symm
    exact (entryLe_written (small a first) (small b second)).symm
  rw [generate, entries]
  refine congrArg Except.ok ?_
  rw [sorted, List.map_map]
  rfl

/-- A chunk is read as the same range with a blank in front. -/
theorem parseRange?_cons {c : Char} (blank : Text.isBlank c = true) (chunk : Text) :
    parseRange? (c :: chunk) = parseRange? chunk := by
  have other : c ≠ ';' := by
    rintro rfl
    exact absurd blank (by decide)
  -- The blank joins the first part and is taken off there.
  have parts : (Text.splitAll ';' (c :: chunk)).map Text.trim =
      (Text.splitAll ';' chunk).map Text.trim := by
    obtain ⟨part, rest, split⟩ := List.exists_cons_of_ne_nil (Text.splitAll_ne_nil ';' chunk)
    have joined : Text.splitAll ';' (c :: chunk) = (c :: part) :: rest := by
      unfold Text.splitAll at split ⊢
      rw [Text.splitWhere, if_neg (by simpa using other), split]
    rw [joined, split, List.map_cons, List.map_cons, Text.trim_cons blank]
  rw [parseRange?, parseRange?, parts]

/-- Texts between commas with a blank behind them are texts between commas, all but the first with a
blank in front. -/
theorem intercalate_comma (text : Text) (rest : List Text) :
    List.intercalate ", " (text :: rest) = [','].intercalate (text :: rest.map (' ' :: ·)) := by
  induction rest generalizing text with
  | nil => rfl
  | cons next rest ih =>
    -- The blank goes in front of the next text, whatever follows that one.
    have lead : [','].intercalate ((' ' :: next) :: rest.map (' ' :: ·)) =
        ' ' :: [','].intercalate (next :: rest.map (' ' :: ·)) := by
      cases rest with
      | nil => rfl
      | cons => rw [List.map_cons, List.intercalate_cons_cons, List.intercalate_cons_cons]; rfl
    rw [List.intercalate_cons_cons, ih next, List.map_cons, List.intercalate_cons_cons, lead]
    simp

/-- Texts without commas are read from a header one after another. -/
theorem parse_intercalate {texts : List Text} (plain : ∀ text ∈ texts, ',' ∉ text) :
    parse (List.intercalate ", " texts) =
      (texts.filterMap parseRange?).mergeSort fun a b => b.quality.rank ≤ a.quality.rank := by
  have read : (Text.splitAll ',' (List.intercalate ", " texts)).filterMap parseRange? =
      texts.filterMap parseRange? := by
    cases texts with
    | nil => rfl
    | cons text rest =>
      -- None of the texts has a comma, so the header is cut where they were joined.
      have cut : Text.splitAll ',' ([','].intercalate (text :: rest.map (' ' :: ·))) =
          text :: rest.map (' ' :: ·) := by
        rw [Text.splitAll_eq_splitOn]
        apply List.splitOn_intercalate
        · intro part inside
          rcases List.mem_cons.mp inside with rfl | later
          · exact plain part (.head _)
          · obtain ⟨next, member, rfl⟩ := List.mem_map.mp later
            simpa using plain next (.tail _ member)
        · exact List.cons_ne_nil _ _
      -- The blanks in front do not change what is read.
      have blanks : (rest.map (' ' :: ·)).filterMap parseRange? = rest.filterMap parseRange? := by
        rw [List.filterMap_map]
        exact List.filterMap_congr fun next _ => parseRange?_cons (by decide) next
      rw [intercalate_comma, cut, List.filterMap_cons, List.filterMap_cons, blanks]
  rw [parse, read]

/-- The text of tenths below ten is not that of a full quality; behind a media type it is a part of
its own, and it is read as the number nearest to the tenths. -/
theorem tenthsText_read {n : ℕ} (small : n < 10) :
    Binary64.tenthsText n ≠ "1.0".toList ∧
      ',' ∉ " q=".toList ++ Binary64.tenthsText n ∧ ';' ∉ " q=".toList ++ Binary64.tenthsText n ∧
      qualityParameter? (Text.trim (" q=".toList ++ Binary64.tenthsText n)) =
        some (Binary64.ofRatio false n 10) := by
  -- Below ten there are ten texts, and each of them is read.
  have each : ∀ n < 10, Binary64.tenthsText n ≠ "1.0".toList ∧
      ',' ∉ " q=".toList ++ Binary64.tenthsText n ∧ ';' ∉ " q=".toList ++ Binary64.tenthsText n ∧
      qualityParameter? (Text.trim (" q=".toList ++ Binary64.tenthsText n)) =
        some (Binary64.ofRatio false n 10) := by
    decide +kernel
  exact each n small

/-- An entry is its media type, and behind that the text of its tenths when there are less than
ten. -/
theorem entryText_written {entry : ℕ × Text} (small : entry.1 ≤ 10) :
    entryText (written entry) =
      if entry.1 = 10 then entry.2
      else entry.2 ++ ';' :: (" q=".toList ++ Binary64.tenthsText entry.1) := by
  -- Only the text of ten tenths is left out.
  unfold entryText written
  by_cases full : entry.1 = 10
  · have text : Binary64.tenthsText 10 = "1.0".toList := by decide
    rw [if_pos full, full, if_pos text]
  · have other := (tenthsText_read (Nat.lt_of_le_of_ne small full)).1
    rw [if_neg full, if_neg other, List.append_assoc]
    rfl

/-- An entry has no comma. -/
theorem not_mem_entryText {entry : ℕ × Text} (small : entry.1 ≤ 10) (plain : IsPlain entry.2) :
    ',' ∉ entryText (written entry) := by
  -- Neither the media type has one nor what is written behind it.
  have absent : ',' ∉ entry.2 := fun inside => (plain.2 ',' inside).1 rfl
  rw [entryText_written small]
  split
  · exact absent
  · rename_i less
    have read := tenthsText_read (Nat.lt_of_le_of_ne small less)
    apply List.not_mem_append absent
    apply List.not_mem_cons_of_ne_of_not_mem (by decide)
    exact read.2.1

/-- An entry is read as its range. -/
theorem parseRange?_entryText {entry : ℕ × Text} (small : entry.1 ≤ 10) (plain : IsPlain entry.2) :
    parseRange? (entryText (written entry)) = some (rangeOf entry) := by
  -- The media type is one part, and trimming takes nothing off it.
  have whole : Text.splitAll ';' entry.2 = [entry.2] := by
    rw [Text.splitAll_eq_splitOn]
    exact List.splitOn_eq_singleton fun inside => (plain.2 ';' inside).2.1 rfl
  have trimmed : Text.trim entry.2 = entry.2 :=
    Text.trim_eq_self fun c inside => (plain.2 c inside).2.2
  obtain ⟨main, sub, names⟩ := Text.exists_splitFirst_of_mem plain.1
  rw [entryText_written small]
  split
  · -- An entry of ten tenths is the media type alone, which is read with the quality one.
    rename_i full
    have one : Binary64.ofRatio false 10 10 = Binary64.one := by decide +kernel
    simp [parseRange?, rangeOf, whole, trimmed, names, full, one]
  · -- Below ten the quality is the one parameter.
    rename_i less
    obtain ⟨_, _, single, read⟩ := tenthsText_read (Nat.lt_of_le_of_ne small less)
    have parts :
        Text.splitAll ';' (entry.2 ++ ';' :: (" q=".toList ++ Binary64.tenthsText entry.1)) =
        [entry.2, " q=".toList ++ Binary64.tenthsText entry.1] := by
      rw [Text.splitAll_append_mark, whole, Text.splitAll_eq_splitOn,
        List.splitOn_eq_singleton single]
      rfl
    simp only [parseRange?, parts, List.map_cons, List.map_nil, trimmed, names, Option.map_some,
      List.filterMap_cons, List.filterMap_nil, read, List.getLast?_singleton, Option.getD_some,
      rangeOf]

section Read

variable {preferences : List Preference}
  (plain : ∀ preference ∈ preferences, IsPlain preference.mediaType)
  (legal : ∀ preference ∈ preferences, 0 < preference.value ∧ preference.value ≤ 1)
include plain legal

/-- The entries of legal preferences have at most ten tenths, and a plain media type. -/
theorem entry_small_plain {entry : ℕ × Text}
    (inside : entry ∈ (preferences.map Preference.entry).mergeSort isBefore) :
    entry.1 ≤ 10 ∧ IsPlain entry.2 := by
  -- Sorting gives the entries another order, and each is that of a preference.
  rw [List.mem_mergeSort] at inside
  obtain ⟨preference, member, rfl⟩ := List.mem_map.mp inside
  exact ⟨Preference.tenths_le (legal preference member), plain preference member⟩

/-- Legal preferences for plain media types have a header, and it is read as the ranges of their
entries, sorted by quality. -/
theorem exists_generate :
    ∃ header, generate preferences = .ok header ∧
      parse header = (((preferences.map Preference.entry).mergeSort isBefore).map rangeOf).mergeSort
        fun a b => b.quality.rank ≤ a.quality.rank := by
  refine ⟨_, generate_eq legal, ?_⟩
  rw [parse_intercalate, List.filterMap_map]
  · -- Each entry of the header is read as its range, and none is dropped.
    refine congrArg (List.mergeSort · _) ?_
    refine (List.filterMap_congr fun entry inside => ?_).trans (congrFun List.filterMap_eq_map _)
    obtain ⟨small, own⟩ := entry_small_plain plain legal inside
    exact parseRange?_entryText small own
  · -- The entries have no commas of their own.
    intro text inside
    obtain ⟨entry, member, rfl⟩ := List.mem_map.mp inside
    obtain ⟨small, own⟩ := entry_small_plain plain legal member
    exact not_mem_entryText small own

/-- The ranges that are read from the header are those of the entries. -/
theorem parse_perm {header : Text} (generated : generate preferences = .ok header) :
    (parse header).Perm (preferences.map fun preference => rangeOf preference.entry) := by
  obtain ⟨own, written, read⟩ := exists_generate plain legal
  obtain rfl := Except.ok.inj (written.symm.trans generated)
  rw [read]
  -- Both sorts only permute, the one of the ranges and that of the entries.
  refine (List.mergeSort_perm _ _).trans ?_
  refine ((List.mergeSort_perm _ _).map rangeOf).trans ?_
  rw [List.map_map]
  rfl

end Read

/-- The range of an entry has its media type, cut at the first slash. -/
theorem rangeOf_mediaType {entry : ℕ × Text} (slash : '/' ∈ entry.2) :
    (rangeOf entry).mediaType = entry.2 ∧ '/' ∉ (rangeOf entry).main := by
  -- A media type with a slash is the two sides of its first one.
  obtain ⟨main, sub, names⟩ := Text.exists_splitFirst_of_mem slash
  obtain ⟨whole, cut⟩ := Text.splitFirst_eq_some_iff.mp names
  unfold rangeOf MediaRange.mediaType
  rw [names]
  exact ⟨whole.symm, cut⟩

/-- The quality of a range tells the tenths of its entry. -/
theorem rangeOf_quality (entry : ℕ × Text) :
    (rangeOf entry).quality = Binary64.ofRatio false entry.1 10 := rfl

/-- A legal preference is stated by the range of its entry. -/
theorem Preference.statedBy_rangeOf {preference : Preference} (plain : IsPlain preference.mediaType)
    (legal : 0 < preference.value ∧ preference.value ≤ 1) :
    preference.StatedBy (rangeOf preference.entry) := by
  -- The range has the media type as it was, and the number nearest to the tenths.
  obtain ⟨whole, cut⟩ := rangeOf_mediaType (show '/' ∈ preference.entry.2 from plain.1)
  exact ⟨whole, cut, preference.tenths, (qualityText_eq legal).2,
    Binary64.isNearest_ofRatio (tenths_le legal)⟩

/-- Different tenths have different numbers, in the same order. -/
theorem ofRatio_tenths_lt {m n : ℕ} (less : m < n) (small : n ≤ 10) :
    (Binary64.ofRatio false m 10).magnitude < (Binary64.ofRatio false n 10).magnitude := by
  -- There are only eleven numbers to compare.
  have each : ∀ n ≤ 10, ∀ m < n,
      (Binary64.ofRatio false m 10).magnitude < (Binary64.ofRatio false n 10).magnitude := by
    decide +kernel
  exact each n small m less

/-- Entries in order have ranges of which those with one quality are in the order of their media
types. -/
theorem pairwise_map_rangeOf {entries : List (ℕ × Text)}
    (own : ∀ entry ∈ entries, entry.1 ≤ 10 ∧ IsPlain entry.2)
    (ordered : entries.Pairwise fun a b => isBefore a b = true) :
    (entries.map rangeOf).Pairwise fun first second =>
      first.quality = second.quality → ¬second.mediaType < first.mediaType := by
  rw [List.pairwise_map]
  refine ordered.imp_of_mem fun {a b} first second before same => ?_
  obtain ⟨small, plain⟩ := own a first
  obtain ⟨small', plain'⟩ := own b second
  rw [(rangeOf_mediaType plain.1).1, (rangeOf_mediaType plain'.1).1]
  rcases isBefore_iff.mp before with less | ⟨_, order⟩
  · -- More tenths would have made a greater quality.
    have lower := ofRatio_tenths_lt less small'
    rw [← rangeOf_quality, ← rangeOf_quality, same] at lower
    exact absurd lower (Nat.lt_irrefl _)
  · exact order

/-- Legal preferences for plain media types have a header. What is read from it are ranges that
state the preferences, each as often as it is there, by descending quality and those of one quality
by ascending media type. -/
theorem parse_generate {preferences : List Preference}
    (plain : ∀ preference ∈ preferences, IsPlain preference.mediaType)
    (legal : ∀ preference ∈ preferences, 0 < preference.value ∧ preference.value ≤ 1) :
    ∃ header, generate preferences = .ok header ∧
      (∃ stated : Preference → MediaRange,
        (∀ preference ∈ preferences, preference.StatedBy (stated preference)) ∧
          (parse header).Perm (preferences.map stated)) ∧
      (parse header).Pairwise fun first second =>
        second.quality.value < first.quality.value ∨
          first.quality = second.quality ∧ ¬second.mediaType < first.mediaType := by
  obtain ⟨header, generated, read⟩ := exists_generate plain legal
  have perm := parse_perm plain legal generated
  refine ⟨header, generated, ⟨fun preference => rangeOf preference.entry, ?_, perm⟩, ?_⟩
  · intro preference member
    exact Preference.statedBy_rangeOf (plain preference member) (legal preference member)
  -- The entries are in order, and ranges of one quality keep the order of their entries.
  have ordered := List.pairwise_mergeSort isBefore_trans isBefore_total
    (preferences.map Preference.entry)
  have before := pairwise_map_rangeOf
    (fun entry inside => entry_small_plain plain legal inside) ordered
  have sorted := pairwise_mergeSort_of_pairwise
    (descending_trans fun range : MediaRange => range.quality.rank)
    (descending_total fun range : MediaRange => range.quality.rank) before
  rw [← read] at sorted
  have unsigned : ∀ range ∈ parse header, range.quality.negative = false := by
    intro range inside
    obtain ⟨preference, _, rfl⟩ := List.mem_map.mp (perm.mem_iff.mp inside)
    rfl
  refine sorted.imp_of_mem fun {a b} first second ⟨order, alike⟩ => ?_
  simp only [decide_eq_true_eq] at order alike
  -- Without signs the order of the bits is that of the values, and bits at one place are equal.
  rcases Int.lt_or_eq_of_le order with less | same
  · exact .inl (Binary64.value_lt_of_rank_lt (unsigned b second) (unsigned a first) less)
  · have same := Binary64.rank_injective same
    exact .inr ⟨same.symm, alike (by rw [same]) same.symm⟩

/-- Of these preferences two have as many tenths, one of them twice, and one is rounded to none. -/
theorem parse_generate_ties :
    let third : Preference := ⟨"text/plain", some (Binary64.ofRatio false 1 3)⟩
    let lower : Preference := ⟨"text/html", some (Binary64.ofRatio false 3 10)⟩
    let least : Preference := ⟨"image/*", some (Binary64.ofRatio false 1 100)⟩
    let full : Preference := ⟨"a/b/c", none⟩
    let preferences := [third, full, lower, least, third]
    let header : Text :=
      "image/*; q=0.0, text/html; q=0.3, text/plain; q=0.3, text/plain; q=0.3, a/b/c"
    (∀ preference ∈ preferences, IsPlain preference.mediaType) ∧
      (∀ preference ∈ preferences, 0 < preference.value ∧ preference.value ≤ 1) ∧
      generate preferences = .ok header ∧
      (parse header).Pairwise fun first second =>
        second.quality.value < first.quality.value ∨
          first.quality = second.quality ∧ ¬second.mediaType < first.mediaType := by
  intro third lower least full preferences header
  have plain : ∀ preference ∈ preferences, IsPlain preference.mediaType := by decide +kernel
  have legal : ∀ preference ∈ preferences, 0 < preference.value ∧ preference.value ≤ 1 := by
    simp only [← Preference.all_isPositiveUnit_iff]
    decide +kernel
  have entries : preferences.map Preference.entry = [(3, third.mediaType), (10, full.mediaType),
      (3, lower.mediaType), (0, least.mediaType), (3, third.mediaType)] := by decide +kernel
  have order : lower.mediaType < third.mediaType := by decide
  -- Of the two types with three tenths the lower one comes first.
  have sorted : (preferences.map Preference.entry).mergeSort isBefore = [(0, least.mediaType),
      (3, lower.mediaType), (3, third.mediaType), (3, third.mediaType), (10, full.mediaType)] := by
    rw [entries]
    clear_value third lower least full
    simp [List.mergeSort, isBefore, order, List.lt_asymm order]
  have written : generate preferences = .ok header := by
    rw [generate_eq legal, sorted]
    decide +kernel
  -- The header is the one of the theorem, so what is read from it has its order.
  obtain ⟨_, generated, _, ordered⟩ := parse_generate plain legal
  obtain rfl := Except.ok.inj (written.symm.trans generated)
  exact ⟨plain, legal, written, ordered⟩

end Accept

end RelyingParty
