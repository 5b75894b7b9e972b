import RelyingParty.Proofs.Accept.Ranking
import RelyingParty.Proofs.Text
import RelyingParty.Proofs.Text.Parts

/-! The qualities that a header is read with are the numbers that it states, whichever these are.
The ranking leaves out the zeros, what is below them and what is no number, but nothing that is
above one. -/

namespace RelyingParty

namespace Binary64

/-- Whether a number lies between zero and one. -/
structure InUnit (x : Binary64) : Prop where
  finite : x.isFinite = true
  nonneg : 0 ≤ x.value
  small : x.value ≤ 1

/-- Without a sign the numbers up to one are those that the total order has up to one. -/
theorem inUnit_iff {x : Binary64} (unsigned : x.negative = false) :
    x.InUnit ↔ x.rank ≤ one.rank := by
  -- Both sides compare the magnitude with that of one.
  have order : x.rank ≤ one.rank ↔ x.magnitude ≤ one.magnitude := by
    simp [rank, unsigned, one]
  have values : x.value ≤ 1 ↔ x.magnitude ≤ one.magnitude := by
    rw [value_of_unsigned unsigned, ← magnitudeValue_one, strictMono_magnitudeValue.le_iff_le]
  rw [order]
  constructor
  · intro unit
    exact values.mp unit.small
  · intro small
    refine ⟨?_, ?_, values.mpr small⟩
    · -- What is not above one is finite, and without a sign it is not below zero.
      have finite : one.magnitude < infiniteMagnitude := by decide
      exact decide_eq_true (small.trans_lt finite)
    · rw [value_of_unsigned unsigned]
      exact magnitudeValue_nonneg _

end Binary64

namespace Accept

/-- Whether a parameter states a quality: its name is q, and its value is a numeral of the
quality. -/
def States (parameter : Text) (quality : Binary64) : Prop :=
  ∃ name value, Text.trim parameter = name ++ '=' :: value ∧ '=' ∉ name ∧
    Text.trim name = ['q'] ∧ Binary64.parse? (Text.trim value) = some quality

/-- Whether a quality is the last one that some parameters state. -/
def StateLast (parameters : List Text) (quality : Binary64) : Prop :=
  ∃ front parameter back, parameters = front ++ parameter :: back ∧ States parameter quality ∧
    ∀ other ∈ back, ∀ x, ¬States other x

/-- Whether a header has an entry with a media type and some parameters. -/
structure HasEntry (header mediaType : Text) (parameters : List Text) : Prop where
  part : ∃ chunk ∈ Text.splitAll ',' header, Text.splitAll ';' chunk = mediaType :: parameters
  slash : '/' ∈ Text.trim mediaType

/-- Whether a range is what an entry is read as: the names of its media type, with the quality that
is stated last, and with one when none is stated. -/
structure MediaRange.ReadFrom (range : MediaRange) (mediaType : Text) (parameters : List Text) :
    Prop where
  names : Text.trim mediaType = range.main ++ '/' :: range.sub
  cut : '/' ∉ range.main
  quality : StateLast parameters range.quality ∨
    range.quality = Binary64.one ∧ ∀ x, ¬StateLast parameters x

/-- A parameter is read as the quality that it states. -/
theorem qualityParameter?_eq_some_iff {parameter : Text} {quality : Binary64} :
    qualityParameter? (Text.trim parameter) = some quality ↔ States parameter quality := by
  unfold qualityParameter?
  constructor
  · -- What is read was cut at the first mark and is named q.
    intro read
    split at read
    · rename_i name value cut
      obtain ⟨whole, first⟩ := Text.splitFirst_eq_some_iff.mp cut
      split at read
      · rename_i named
        exact ⟨name, value, whole, first, named, read⟩
      · cases read
    · cases read
  · -- The mark that the statement names is the first one, where the parameter is cut.
    intro stated
    obtain ⟨name, value, whole, first, named, read⟩ := stated
    rw [Text.splitFirst_eq_some_iff.mpr ⟨whole, first⟩]
    exact (if_pos named).trans read

/-- A parameter that states nothing is passed over. -/
theorem qualityParameter?_eq_none_iff {parameter : Text} :
    qualityParameter? (Text.trim parameter) = none ↔ ∀ x, ¬States parameter x := by
  -- To state nothing is to state no number whatever.
  rw [Option.eq_none_iff_forall_ne_some]
  exact forall_congr' fun x => not_congr qualityParameter?_eq_some_iff

/-- The last value of a partial function on a list is that of its last element with a value. -/
theorem getLast?_filterMap_eq_some_iff {α β : Type} {f : α → Option β} {list : List α} {b : β} :
    (list.filterMap f).getLast? = some b ↔
      ∃ front a back, list = front ++ a :: back ∧ f a = some b ∧ ∀ x ∈ back, f x = none := by
  rw [List.getLast?_eq_some_iff]
  constructor
  · intro ⟨values, read⟩
    -- The value belongs to an element behind those of the other values.
    obtain ⟨front, rest, rfl, _, last⟩ := List.filterMap_eq_append_iff.mp read
    obtain ⟨skipped, a, back, rfl, _, own, empty⟩ := List.filterMap_eq_cons_iff.mp last
    refine ⟨front ++ skipped, a, back, ?_, own, List.filterMap_eq_nil_iff.mp empty⟩
    rw [List.append_assoc]
  · intro ⟨front, a, back, whole, own, empty⟩
    refine ⟨front.filterMap f, ?_⟩
    rw [whole, List.filterMap_append, List.filterMap_cons, own, List.filterMap_eq_nil_iff.mpr empty]

/-- Parameters are read as the quality that they state last. -/
theorem getLast?_qualities_eq_some_iff {parameters : List Text} {quality : Binary64} :
    ((parameters.map Text.trim).filterMap qualityParameter?).getLast? = some quality ↔
      StateLast parameters quality := by
  -- The last of what is found is the one behind which nothing else is found.
  rw [List.filterMap_map, getLast?_filterMap_eq_some_iff, StateLast]
  simp only [Function.comp_apply, qualityParameter?_eq_some_iff, qualityParameter?_eq_none_iff]

/-- Where they state none they are read as one. -/
theorem getD_qualities_eq_iff {parameters : List Text} {quality : Binary64} :
    (((parameters.map Text.trim).filterMap qualityParameter?).getLast?).getD Binary64.one = quality ↔
      StateLast parameters quality ∨
        quality = Binary64.one ∧ ∀ x, ¬StateLast parameters x := by
  -- Nothing stated leaves one as the default; otherwise the last number is unique.
  simp only [← getLast?_qualities_eq_some_iff]
  cases ((parameters.map Text.trim).filterMap qualityParameter?).getLast? with
  | none => simp [eq_comm]
  | some last => simp

/-- The ranges of a header are what its entries are read as. -/
theorem mem_parse_iff {header : Text} {range : MediaRange} :
    range ∈ parse header ↔ ∃ mediaType parameters, HasEntry header mediaType parameters ∧
      range.ReadFrom mediaType parameters := by
  unfold parse
  rw [List.mem_mergeSort, List.mem_filterMap]
  constructor
  · intro ⟨chunk, part, read⟩
    -- A chunk has a first part, which is its media type.
    have some : Text.splitAll ';' chunk ≠ [] := Text.splitAll_ne_nil ';' chunk
    obtain ⟨mediaType, parameters, split⟩ := List.exists_cons_of_ne_nil some
    rw [parseRange?, split, List.map_cons] at read
    obtain ⟨⟨main, sub⟩, names, rfl⟩ := Option.map_eq_some_iff.mp read
    obtain ⟨whole, cut⟩ := Text.splitFirst_eq_some_iff.mp names
    have slash : '/' ∈ Text.trim mediaType := by simp [whole]
    exact ⟨mediaType, parameters, ⟨⟨chunk, part, split⟩, slash⟩,
      ⟨whole, cut, getD_qualities_eq_iff.mp rfl⟩⟩
  · -- In turn an entry is the chunk that it comes from, read part by part.
    intro ⟨mediaType, parameters, entry, own⟩
    obtain ⟨chunk, part, split⟩ := entry.part
    refine ⟨chunk, part, ?_⟩
    have names : Text.splitFirst '/' (Text.trim mediaType) = some (range.main, range.sub) :=
      Text.splitFirst_eq_some_iff.mpr ⟨own.names, own.cut⟩
    rw [parseRange?, split, List.map_cons]
    dsimp only
    rw [names, Option.map_some, getD_qualities_eq_iff.mpr own.quality]

/-- What holds of one holds of all qualities of a header when it holds of those that are stated. -/
theorem forall_parse_iff {header : Text} {p : Binary64 → Prop} (one : p Binary64.one) :
    (∀ range ∈ parse header, p range.quality) ↔
      ∀ mediaType parameters, HasEntry header mediaType parameters →
        ∀ quality, StateLast parameters quality → p quality := by
  constructor
  · -- Every entry is read as some range, with the quality that it states last.
    intro every mediaType parameters entry quality stated
    obtain ⟨main, sub, whole, cut⟩ := List.eq_append_cons_of_mem entry.slash
    exact every ⟨main, sub, quality⟩
      (mem_parse_iff.mpr ⟨mediaType, parameters, entry, whole, cut, .inl stated⟩)
  · intro every range inside
    obtain ⟨mediaType, parameters, entry, read⟩ := mem_parse_iff.mp inside
    rcases read.quality with stated | ⟨same, _⟩
    · exact every mediaType parameters entry _ stated
    · exact same ▸ one

/-- The weight of a type is one without ranges, and otherwise the greatest quality of some scope. -/
theorem Weights.qualityOf_ofRanges (accepted : List MediaRange) (mediaType : Text) :
    let quality := (Weights.ofRanges accepted).qualityOf mediaType
    quality = Binary64.one ∨ ∃ scope, quality = Binary64.greatest (qualitiesAt accepted scope) := by
  unfold Weights.qualityOf
  generalize (Text.splitFirst '/' mediaType).getD (mediaType, []) = names
  obtain ⟨main, sub⟩ := names
  -- Neither scope is that of all types, whatever the names are.
  have exact := Weights.at?_ofRanges accepted (show Scope.type main sub ≠ .all by simp)
  have wide := Weights.at?_ofRanges accepted (show Scope.main main ≠ .all by simp)
  unfold Weights.at? at exact wide
  dsimp only at exact wide ⊢
  -- The type's own weight, that of its main type, that of all types, or one without ranges.
  rw [exact, wide, Weights.others_ofRanges]
  split
  · split
    · split
      · exact .inl rfl
      · exact .inr ⟨_, rfl⟩
    · exact .inr ⟨_, rfl⟩
  · exact .inr ⟨_, rfl⟩

/-- There is a name without a slash that some names do not have. -/
theorem exists_fresh (names : List Text) : ∃ name, '/' ∉ name ∧ name ∉ names := by
  -- It is longer than all of them together.
  refine ⟨List.replicate (names.flatten.length + 1) 'a', by simp, fun inside => ?_⟩
  have long := (List.sublist_flatten_of_mem inside).length_le
  rw [List.length_replicate] at long
  omega

/-- For each range there is a type that has the greatest quality of its scope. -/
theorem exists_qualityOf_eq {accepted : List MediaRange} {range : MediaRange}
    (inside : range ∈ accepted) (cut : '/' ∉ range.main) :
    ∃ mediaType, (Weights.ofRanges accepted).qualityOf mediaType =
      Binary64.greatest (qualitiesAt accepted range.scope) := by
  have weight := Weights.at?_scope inside
  -- The type must be in the scope of the range and in no narrower scope of other ranges.
  cases told : range.scope with
  | type main sub =>
    obtain ⟨rfl, rfl⟩ := MediaRange.names_of_scope_eq_type told
    rw [told] at weight
    refine ⟨range.main ++ '/' :: range.sub, ?_⟩
    rw [Weights.qualityOf_append _ cut, weight]
    rfl
  | main main =>
    obtain ⟨rfl, _⟩ := MediaRange.names_of_scope_eq_main told
    rw [told] at weight
    -- No range has the main type together with a fresh subtype.
    obtain ⟨sub, _, absent⟩ := exists_fresh (accepted.map MediaRange.sub)
    have unnamed : (Weights.ofRanges accepted).at? (.type range.main sub) = none := by
      apply Weights.at?_ofRanges_eq_none (by simp)
      intro other member same
      have named := (MediaRange.names_of_scope_eq_type same).2
      exact absent (List.mem_map.mpr ⟨other, member, named⟩)
    refine ⟨range.main ++ '/' :: sub, ?_⟩
    rw [Weights.qualityOf_append _ cut, unnamed, weight]
    rfl
  | all =>
    rw [told] at weight
    -- No range has a fresh main type, with whichever subtype.
    obtain ⟨main, cut, absent⟩ := exists_fresh (accepted.map MediaRange.main)
    have unnamed : (Weights.ofRanges accepted).at? (.type main []) = none := by
      apply Weights.at?_ofRanges_eq_none (by simp)
      intro other member same
      have named := (MediaRange.names_of_scope_eq_type same).1
      exact absent (List.mem_map.mpr ⟨other, member, named⟩)
    have unnamed' : (Weights.ofRanges accepted).at? (.main main) = none := by
      apply Weights.at?_ofRanges_eq_none (by simp)
      intro other member same
      have named := (MediaRange.names_of_scope_eq_main same).1
      exact absent (List.mem_map.mpr ⟨other, member, named⟩)
    refine ⟨main ++ '/' :: [], ?_⟩
    rw [Weights.qualityOf_append _ cut, unnamed, unnamed']
    exact Option.some.inj weight

/-- What is ranked are the available types whose weight is not zero. -/
theorem mem_rank_iff {accepted : List MediaRange} {available : List Text}
    {ranked : Text × Binary64} :
    ranked ∈ rank accepted available ↔ ranked.1 ∈ available ∧
      (Weights.ofRanges accepted).qualityOf ranked.1 = ranked.2 ∧ ranked.2.value ≠ 0 := by
  -- Sorting takes nothing away, and a type is kept by its weight.
  rw [rank_eq, List.mem_mergeSort, qualified]
  constructor
  · intro inside
    obtain ⟨mediaType, kept, rfl⟩ := List.mem_map.mp inside
    obtain ⟨member, other⟩ := List.mem_filter.mp kept
    exact ⟨member, rfl, of_decide_eq_true other⟩
  · rintro ⟨member, own, other⟩
    rw [← own] at other
    refine List.mem_map.mpr ⟨ranked.1, ?_, Prod.ext rfl own⟩
    exact List.mem_filter.mpr ⟨member, decide_eq_true other⟩

/-- What is ranked has a number above zero, which is one or the quality of a range. -/
theorem quality_of_mem_rank {accepted : List MediaRange} {available : List Text}
    {ranked : Text × Binary64} (inside : ranked ∈ rank accepted available) :
    ranked.2.isNaN = false ∧ 0 < ranked.2.value ∧
      (ranked.2 = Binary64.one ∨ ∃ range ∈ accepted, range.quality = ranked.2) := by
  obtain ⟨_, own, other⟩ := mem_rank_iff.mp inside
  have weight := Weights.qualityOf_ofRanges accepted ranked.1
  dsimp only at weight
  rw [own] at weight
  rcases weight with full | ⟨scope, best⟩
  · rw [full, Binary64.value_one]
    exact ⟨rfl, one_pos, .inl rfl⟩
  · have greatest := Binary64.isGreatestOf_greatest (qualitiesAt accepted scope)
    rw [← best] at greatest
    have least := Binary64.value_le_of_rank_le greatest.nonneg
    rw [Binary64.value_zero] at least
    refine ⟨greatest.number, lt_of_le_of_ne least other.symm, .inr ?_⟩
    -- A quality of the scope attains it, since zero does not.
    have member := greatest.attained.resolve_left fun zero => other (zero ▸ Binary64.value_zero)
    obtain ⟨range, kept, same⟩ := List.mem_map.mp member
    exact ⟨range, (List.mem_filter.mp kept).1, same⟩

/-- For each range of a quality above zero there is a type that is ranked with this quality or with
a greater one. -/
theorem exists_mem_rank {accepted : List MediaRange} {range : MediaRange}
    (inside : range ∈ accepted)
    (cut : '/' ∉ range.main) (number : range.quality.isNaN = false)
    (positive : 0 < range.quality.value) :
    ∃ ranked, ranked ∈ rank accepted [ranked.1] ∧ range.quality.rank ≤ ranked.2.rank := by
  -- Some type is weighed by this range and its like alone, and the greatest of them is no less.
  obtain ⟨mediaType, own⟩ := exists_qualityOf_eq inside cut
  have member : range.quality ∈ qualitiesAt accepted range.scope :=
    List.mem_map_of_mem (List.mem_filter.mpr ⟨inside, decide_eq_true rfl⟩)
  have greatest := Binary64.isGreatestOf_greatest (qualitiesAt accepted range.scope)
  have more := greatest.above _ member number
  rw [← own] at more
  have other := positive.trans_le (Binary64.value_le_of_rank_le more)
  exact ⟨(mediaType, _), mem_rank_iff.mpr ⟨.head _, rfl, other.ne'⟩, more⟩

/-- Rankings have no number above one when no range has one. -/
theorem rank_inUnit_iff {accepted : List MediaRange}
    (cut : ∀ range ∈ accepted, '/' ∉ range.main) :
    (∀ available, ∀ ranked ∈ rank accepted available, ranked.2.InUnit) ↔
      ∀ range ∈ accepted, range.quality.isNaN = true ∨ range.quality.negative = true ∨
        range.quality.InUnit := by
  constructor
  · intro every range inside
    by_contra excluded
    simp only [not_or, Bool.not_eq_true] at excluded
    obtain ⟨number, unsigned, above⟩ := excluded
    rw [Binary64.inUnit_iff unsigned, not_le] at above
    have order := Binary64.value_le_of_rank_le above.le
    rw [Binary64.value_one] at order
    -- Some type would be ranked above one as well.
    obtain ⟨ranked, member, more⟩ :=
      exists_mem_rank inside (cut range inside) number (one_pos.trans_le order)
    obtain ⟨_, positive, _⟩ := quality_of_mem_rank member
    have small := (Binary64.inUnit_iff (Binary64.unsigned_of_pos positive)).mp (every _ _ member)
    omega
  · -- What is ranked is a number without a sign, so the range that it comes from is no exception.
    intro every available ranked inside
    obtain ⟨number, positive, full | ⟨range, member, same⟩⟩ := quality_of_mem_rank inside
    · rw [full]
      exact (Binary64.inUnit_iff rfl).mpr (Int.le_refl _)
    · have own := every range member
      rw [same, number, Binary64.unsigned_of_pos positive] at own
      simpa using own

/-- The ranges of a header are what its entries are read as, so their qualities lie between zero and
one when the numbers that the entries state last do. A ranking by them has only numbers above zero,
and none above one when the entries state none above one. -/
theorem parse_inUnit_iff (header : Text) :
    (∀ range, range ∈ parse header ↔ ∃ mediaType parameters,
      HasEntry header mediaType parameters ∧ range.ReadFrom mediaType parameters) ∧
    ((∀ range ∈ parse header, range.quality.InUnit) ↔
      ∀ mediaType parameters, HasEntry header mediaType parameters →
        ∀ quality, StateLast parameters quality → quality.InUnit) ∧
    (∀ available, ∀ ranked ∈ rank (parse header) available,
      ranked.2.isNaN = false ∧ 0 < ranked.2.value) ∧
    ((∀ available, ∀ ranked ∈ rank (parse header) available, ranked.2.InUnit) ↔
      ∀ mediaType parameters, HasEntry header mediaType parameters →
        ∀ quality, StateLast parameters quality →
          quality.isNaN = true ∨ quality.negative = true ∨ quality.InUnit) := by
  have one : Binary64.one.InUnit := (Binary64.inUnit_iff rfl).mpr (Int.le_refl _)
  have cut : ∀ range ∈ parse header, '/' ∉ range.main := by
    intro range inside
    obtain ⟨_, _, _, read⟩ := mem_parse_iff.mp inside
    exact read.cut
  refine ⟨fun range => mem_parse_iff, forall_parse_iff one,
    fun available ranked inside => ?_, ?_⟩
  · obtain ⟨number, positive, _⟩ := quality_of_mem_rank inside
    exact ⟨number, positive⟩
  -- A ranking leaves out what is no number or below zero, so such qualities do no harm in it.
  rw [rank_inUnit_iff cut]
  have harmless : Binary64.one.isNaN = true ∨ Binary64.one.negative = true ∨ Binary64.one.InUnit :=
    .inr (.inr one)
  exact forall_parse_iff (p := fun x => x.isNaN = true ∨ x.negative = true ∨ x.InUnit) harmless

/-- A header can state two as a quality, and types are ranked by it. -/
theorem parse_inUnit_two :
    let header : Text := "a/b; q=2"
    (¬∀ range ∈ parse header, range.quality.InUnit) ∧
      ¬∀ available, ∀ ranked ∈ rank (parse header) available, ranked.2.InUnit := by
  intro header
  have entry : HasEntry header "a/b" [" q=2"] := by
    refine ⟨⟨header, ?_, ?_⟩, ?_⟩ <;> decide
  have stated : StateLast [" q=2"] (Binary64.ofRatio false 2 1) := by
    refine ⟨[], " q=2", [], rfl, ⟨['q'], ['2'], ?_, ?_, ?_, ?_⟩, by simp⟩ <;> decide +kernel
  -- Two has no sign, so its magnitude decides.
  have unsigned : (Binary64.ofRatio false 2 1).negative = false := rfl
  have above : ¬(Binary64.ofRatio false 2 1).InUnit := by
    rw [Binary64.inUnit_iff unsigned]
    decide +kernel
  -- Two is stated last by an entry, and it is neither between zero and one nor left out.
  obtain ⟨_, parsed, _, ranked⟩ := parse_inUnit_iff header
  rw [parsed, ranked]
  refine ⟨fun every => above (every _ _ entry _ stated), fun every => ?_⟩
  rcases every _ _ entry _ stated with number | negative | unit
  · exact absurd number (by decide +kernel)
  · exact absurd negative (by decide +kernel)
  · exact above unit

end Accept

end RelyingParty
