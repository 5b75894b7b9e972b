import RelyingParty.Proofs.Accept.Header
import RelyingParty.Proofs.Accept.Ranking

/-! A type that is asked for stays acceptable through the header unless every preference for it is
rounded to zero tenths, which is how a header refuses a type. -/

namespace RelyingParty

/-- Zero is the natural number nearest to what is at most a half; the tie goes to zero. -/
theorem isNearestNat_zero_iff {value : ℚ} (nonneg : 0 ≤ value) :
    IsNearestNat value 0 ↔ value ≤ 1 / 2 := by
  -- Zero is even, which settles the tie.
  unfold IsNearestNat
  rw [Nat.cast_zero, sub_zero, abs_of_nonneg nonneg]
  exact and_iff_left fun _ => Even.zero

namespace Accept

/-- A header is generated for legal preferences, and for no others. -/
theorem exists_generate_iff {preferences : List Preference} :
    (∃ header, generate preferences = .ok header) ↔
      ∀ preference ∈ preferences, 0 < preference.value ∧ preference.value ≤ 1 := by
  constructor
  · -- Each entry of the header was written, so its quality has passed the check.
    intro ⟨header, generated⟩ preference member
    obtain ⟨entries, collected, _⟩ := bind_eq_ok_iff.mp generated
    obtain ⟨entry, own⟩ := exists_of_mapM_eq_ok collected member
    obtain ⟨text, written, _⟩ := bind_eq_ok_iff.mp own
    rw [← Preference.all_isPositiveUnit_iff]
    -- Without a quality nothing is checked, and one that fails the check would have been the fault.
    unfold Preference.qualityText at written
    split at written
    · rename_i absent
      rw [absent]
      rfl
    · rename_i quality present
      split at written
      · rename_i unit
        rw [present]
        exact unit
      · cases written
  · intro legal
    exact ⟨_, generate_eq legal⟩

/-- A preference is written with no tenths when its quality is at most half of one. -/
theorem Preference.tenths_eq_zero_iff {preference : Preference}
    (legal : 0 < preference.value ∧ preference.value ≤ 1) :
    preference.tenths = 0 ↔ preference.value ≤ 1 / 20 := by
  have nearest := (qualityText_eq legal).2
  -- Only one number of tenths is nearest, so there are none when zero is.
  have none : preference.tenths = 0 ↔ IsNearestNat (10 * preference.value) 0 := by
    constructor
    · intro same
      rwa [same] at nearest
    · exact nearest.unique
  rw [none, isNearestNat_zero_iff (by linarith [legal.1])]
  constructor <;> intro small <;> linarith

/-- The range of an entry has a quality above zero when the entry has tenths. -/
theorem rangeOf_quality_pos_iff (entry : ℕ × Text) (small : entry.1 ≤ 10) :
    0 < (rangeOf entry).quality.value ↔ entry.1 ≠ 0 := by
  have zero : Binary64.ofRatio false 0 10 = Binary64.zero := rfl
  constructor
  · intro positive none
    rw [rangeOf_quality, none, zero, Binary64.value_zero] at positive
    exact lt_irrefl _ positive
  · -- Tenths have greater numbers than none.
    intro some
    have more := ofRatio_tenths_lt (Nat.pos_of_ne_zero some) small
    rw [zero] at more
    rw [rangeOf_quality, Binary64.value_of_unsigned rfl, ← Binary64.magnitudeValue_zero]
    exact Binary64.strictMono_magnitudeValue more

/-- The range of an entry has two names when its media type consists of them. -/
theorem rangeOf_names_iff (entry : ℕ × Text) (slash : '/' ∈ entry.2) {main sub : Text}
    (cut : '/' ∉ main) :
    (rangeOf entry).main = main ∧ (rangeOf entry).sub = sub ↔ entry.2 = main ++ '/' :: sub := by
  -- The names of the range are the two sides of the first slash.
  obtain ⟨whole, _⟩ := rangeOf_mediaType slash
  constructor
  · rintro ⟨rfl, rfl⟩
    exact whole.symm
  · intro same
    have names : Text.splitFirst '/' entry.2 = some (main, sub) :=
      Text.splitFirst_eq_some_iff.mpr ⟨same, cut⟩
    rw [rangeOf, names]
    exact ⟨rfl, rfl⟩

/-- A best quality is not zero when a range of the kind has one above zero. -/
theorem IsBest.value_ne_zero_iff {accepted : List MediaRange} {kind : MediaRange → Prop}
    {quality : Binary64} (best : IsBest accepted kind quality) :
    quality.value ≠ 0 ↔ ∃ range ∈ accepted, kind range ∧ 0 < range.quality.value := by
  constructor
  · -- The best quality is zero or that of a range, and it is not negative.
    intro other
    rcases best.attained with rfl | ⟨range, inside, kinded, rfl⟩
    · exact absurd Binary64.value_zero other
    · exact ⟨range, inside, kinded, lt_of_le_of_ne best.nonneg other.symm⟩
  · intro ⟨range, inside, kinded, positive⟩
    have above := best.above range inside kinded
    exact (positive.trans_le above).ne'

/-- Of one available type the ranking keeps it or nothing. -/
theorem acceptable_singleton (header mediaType : Text) :
    acceptable header [mediaType] =
      if ((Weights.ofRanges (parse header)).qualityOf mediaType).value ≠ 0 then [mediaType]
      else [] := by
  -- There is nothing to sort, and the weight decides alone.
  rw [acceptable, rank_eq, qualified]
  split
  · rename_i other
    rw [List.filter_cons_of_pos (by simpa using other), List.filter_nil, List.map_singleton,
      List.mergeSort_singleton, List.map_singleton]
  · rename_i zero
    rw [List.filter_cons_of_neg (by simpa using zero), List.filter_nil, List.map_nil,
      List.mergeSort_nil, List.map_nil]

section Generated

variable {preferences : List Preference} {header : Text}
  (generated : generate preferences = .ok header)
  (plain : ∀ preference ∈ preferences, IsPlain preference.mediaType)
include generated plain

/-- What is read from a header that was generated are the ranges of the preferences. -/
theorem mem_parse_generate_iff {range : MediaRange} :
    range ∈ parse header ↔ ∃ preference ∈ preferences, rangeOf preference.entry = range := by
  -- The ranges are those of the entries in another order.
  have legal := exists_generate_iff.mp ⟨header, generated⟩
  rw [(parse_perm plain legal generated).mem_iff, List.mem_map]

/-- All of its qualities are finite. -/
theorem isFinite_parse_generate : ∀ range ∈ parse header, range.quality.isFinite = true := by
  -- A quality in tenths is far below the largest finite number.
  intro range inside
  obtain ⟨preference, member, rfl⟩ := (mem_parse_generate_iff generated plain).mp inside
  have legal := exists_generate_iff.mp ⟨header, generated⟩ preference member
  exact (Binary64.isNearest_ofRatio (Preference.tenths_le legal)).finite

/-- A range with the names of a type is that of a preference for the type. -/
theorem exists_range_iff {main sub : Text} (cut : '/' ∉ main) (kind : MediaRange → Prop) :
    (∃ range ∈ parse header, (range.main = main ∧ range.sub = sub) ∧ kind range) ↔
      ∃ preference ∈ preferences, preference.mediaType = main ++ '/' :: sub ∧
        kind (rangeOf preference.entry) := by
  -- A range comes from a preference, and its names tell the media type of that one.
  constructor
  · rintro ⟨range, inside, names, kinded⟩
    obtain ⟨preference, member, rfl⟩ := (mem_parse_generate_iff generated plain).mp inside
    exact ⟨preference, member,
      (rangeOf_names_iff _ (plain preference member).1 cut).mp names, kinded⟩
  · rintro ⟨preference, member, whole, kinded⟩
    have inside := (mem_parse_generate_iff generated plain).mpr ⟨preference, member, rfl⟩
    exact ⟨_, inside, (rangeOf_names_iff _ (plain preference member).1 cut).mpr whole, kinded⟩

/-- The weight of a type that is asked for is not zero when a preference for it has a quality above
half a tenth. -/
theorem qualityOf_value_ne_zero_iff {preference : Preference} (member : preference ∈ preferences)
    (starless : '*' ∉ preference.mediaType) :
    ((Weights.ofRanges (parse header)).qualityOf preference.mediaType).value ≠ 0 ↔
      ∃ other ∈ preferences, other.mediaType = preference.mediaType ∧ 1 / 20 < other.value := by
  have concrete : IsConcrete preference.mediaType := ⟨(plain preference member).1, starless⟩
  obtain ⟨main, sub, names, cut, named, named'⟩ := concrete.exists_names
  have quality := isQualityOf_qualityOf (isFinite_parse_generate generated plain) cut named named'
  -- The preference itself has a range with both names, so wider ranges do not count.
  have some : ∃ range ∈ parse header, range.main = main ∧ range.sub = sub := by
    have whole := (rangeOf_names_iff preference.entry (plain _ member).1 cut).mpr names
    exact ⟨_, (mem_parse_generate_iff generated plain).mpr ⟨preference, member, rfl⟩, whole⟩
  rw [names, (quality.exact some).value_ne_zero_iff, exists_range_iff generated plain cut]
  -- The range of a preference has a quality above zero unless its tenths are rounded away.
  refine exists_congr fun other => and_congr_right fun member => and_congr_right fun _ => ?_
  have legal := exists_generate_iff.mp ⟨header, generated⟩ other member
  rw [rangeOf_quality_pos_iff other.entry (Preference.tenths_le legal), ← not_le]
  exact not_congr (Preference.tenths_eq_zero_iff legal)

end Generated

/-- A type that is asked for without stars is acceptable through the header when a preference for it
has a quality above half a tenth; otherwise the header refuses it. -/
theorem acceptable_generate_iff {preferences : List Preference} {header : Text}
    (generated : generate preferences = .ok header)
    (plain : ∀ preference ∈ preferences, IsPlain preference.mediaType ∧ '*' ∉ preference.mediaType)
    {mediaType : Text} (asked : mediaType ∈ preferences.map Preference.mediaType) :
    (acceptable header [mediaType] = [mediaType] ↔
      ∃ preference ∈ preferences, preference.mediaType = mediaType ∧ 1 / 20 < preference.value) ∧
    (acceptable header [mediaType] = [] ↔
      ∀ preference ∈ preferences, preference.mediaType = mediaType → preference.value ≤ 1 / 20) := by
  -- The header is read as the weight of the type, which is zero or not.
  obtain ⟨preference, member, rfl⟩ := List.mem_map.mp asked
  have told := qualityOf_value_ne_zero_iff generated (fun other own => (plain other own).1) member
    (plain preference member).2
  rw [acceptable_singleton]
  -- Both statements are told by whether such a preference is kept.
  by_cases kept : ∃ other ∈ preferences,
      other.mediaType = preference.mediaType ∧ 1 / 20 < other.value
  · rw [if_pos (told.mpr kept)]
    refine ⟨iff_of_true rfl kept, iff_of_false (List.cons_ne_nil _ _) fun least => ?_⟩
    obtain ⟨other, inside, same, more⟩ := kept
    exact absurd (least other inside same) (not_le.mpr more)
  · rw [if_neg (mt told.mp kept)]
    refine ⟨iff_of_false (List.cons_ne_nil _ _).symm kept, iff_of_true rfl ?_⟩
    intro other inside same
    exact not_lt.mp fun more => kept ⟨other, inside, same, more⟩

/-- Of two types that are asked for the one with a quality of four hundredths is refused. -/
theorem acceptable_generate_refused :
    let kept : Preference := ⟨"a/b", some (Binary64.ofRatio false 6 100)⟩
    let lost : Preference := ⟨"c/d", some (Binary64.ofRatio false 4 100)⟩
    let header : Text := "c/d; q=0.0, a/b; q=0.1"
    generate [kept, lost] = .ok header ∧
      (∀ preference ∈ [kept, lost],
        IsPlain preference.mediaType ∧ '*' ∉ preference.mediaType) ∧
      acceptable header ["a/b"] = ["a/b".toList] ∧ acceptable header ["c/d"] = [] := by
  intro kept lost header
  have plain : ∀ preference ∈ [kept, lost],
      IsPlain preference.mediaType ∧ '*' ∉ preference.mediaType := by decide +kernel
  have legal : ∀ preference ∈ [kept, lost], 0 < preference.value ∧ preference.value ≤ 1 := by
    simp only [← Preference.all_isPositiveUnit_iff]
    decide +kernel
  -- Written in tenths one of the qualities is none.
  have sorted : ([kept, lost].map Preference.entry).mergeSort isBefore =
      [(0, lost.mediaType), (1, kept.mediaType)] := by
    have entries : [kept, lost].map Preference.entry =
        [(1, kept.mediaType), (0, lost.mediaType)] := by decide +kernel
    rw [entries]
    clear_value kept lost
    simp [List.mergeSort, isBefore]
  have generated : generate [kept, lost] = .ok header := by
    rw [generate_eq legal, sorted]
    decide +kernel
  -- Six hundredths are more than half a tenth, and four are less.
  refine ⟨generated, plain, ?_, ?_⟩
  · have own := acceptable_generate_iff generated plain (List.mem_map_of_mem (.head _))
    exact own.1.mpr ⟨kept, .head _, rfl, by decide +kernel⟩
  · have own := acceptable_generate_iff generated plain (List.mem_map_of_mem (.tail _ (.head _)))
    exact own.2.mpr (by decide +kernel)

end Accept

end RelyingParty
