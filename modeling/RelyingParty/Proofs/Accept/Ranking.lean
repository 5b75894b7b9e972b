import RelyingParty.Proofs.Accept.Weights
import RelyingParty.Proofs.Sort
import RelyingParty.Proofs.Text

/-! Media types are ranked by the greatest quality of the ranges that name them most closely, and
types of one quality stay in their order. The ranking is told by which ranges there are. -/

namespace RelyingParty.Accept

/-- A range that tells of one type has its names. -/
theorem MediaRange.names_of_scope_eq_type {range : MediaRange} {main sub : Text}
    (told : range.scope = .type main sub) : range.main = main ∧ range.sub = sub := by
  -- Only a range without stars tells of a single type.
  unfold scope at told
  split at told
  · cases told
  split at told
  · cases told
  · cases told
    exact ⟨rfl, rfl⟩

/-- A range that tells of the types with a main type has this and a star. -/
theorem MediaRange.names_of_scope_eq_main {range : MediaRange} {main : Text}
    (told : range.scope = .main main) : range.main = main ∧ range.sub = ['*'] := by
  -- A star as main type would tell of all types.
  unfold scope at told
  split at told
  · cases told
  split at told
  · rename_i wide
    cases told
    exact ⟨rfl, wide⟩
  · cases told

/-- Names that are no stars are those of the ranges that tell of their type. -/
theorem MediaRange.scope_eq_type_iff {range : MediaRange} {main sub : Text} (named : main ≠ ['*'])
    (named' : sub ≠ ['*']) :
    range.scope = .type main sub ↔ range.main = main ∧ range.sub = sub := by
  -- Names without stars decide both tests of the scope.
  refine ⟨names_of_scope_eq_type, ?_⟩
  rintro ⟨rfl, rfl⟩
  rw [scope, if_neg named, if_neg named']

/-- A main type that is no star is that of the ranges that tell of its types. -/
theorem MediaRange.scope_eq_main_iff {range : MediaRange} {main : Text} (named : main ≠ ['*']) :
    range.scope = .main main ↔ range.main = main ∧ range.sub = ['*'] := by
  -- The main type decides the first test, the star the second.
  refine ⟨names_of_scope_eq_main, ?_⟩
  rintro ⟨rfl, wide⟩
  rw [scope, if_neg named, if_pos wide]

/-- A range tells of all types when its main type is a star. -/
theorem MediaRange.scope_eq_all_iff {range : MediaRange} :
    range.scope = .all ↔ range.main = ['*'] := by
  -- The other two scopes are given to ranges with a name.
  unfold scope
  constructor
  · intro same
    split at same
    · assumption
    split at same
    · cases same
    · cases same
  · intro every
    rw [if_pos every]

/-- The weight of a type is the one for its names, else for its main type, else for all types. -/
theorem Weights.qualityOf_append (weights : Weights) {main : Text} (cut : '/' ∉ main) (sub : Text) :
    weights.qualityOf (main ++ '/' :: sub) =
      ((weights.at? (.type main sub)).or (weights.at? (.main main))).getD weights.others := by
  -- The type is cut at its first slash, which is the given one.
  have names : Text.splitFirst '/' (main ++ '/' :: sub) = some (main, sub) :=
    Text.splitFirst_eq_some_iff.mpr ⟨rfl, cut⟩
  rw [qualityOf, names]
  rfl

/-- Whether a quality is the greatest of zero and the qualities of the ranges of a kind. -/
structure IsBest (accepted : List MediaRange) (kind : MediaRange → Prop) (quality : Binary64) :
    Prop where
  attained : quality = Binary64.zero ∨ ∃ range ∈ accepted, kind range ∧ range.quality = quality
  nonneg : 0 ≤ quality.value
  above : ∀ range ∈ accepted, kind range → range.quality.value ≤ quality.value

/-- A finite number is a number. -/
theorem isNaN_of_isFinite {x : Binary64} (finite : x.isFinite = true) : x.isNaN = false := by
  -- Both are told from the exponent, and the finite numbers lie below.
  simp only [Binary64.isFinite, Binary64.isNaN, decide_eq_true_eq, decide_eq_false_iff_not] at *
  omega

/-- The greatest quality of a scope is the best one of its ranges. -/
theorem isBest_greatest {accepted : List MediaRange}
    (finite : ∀ range ∈ accepted, range.quality.isFinite = true) {kind : MediaRange → Prop}
    {scope : Scope} (own : ∀ range : MediaRange, range.scope = scope ↔ kind range) :
    IsBest accepted kind (Binary64.greatest (qualitiesAt accepted scope)) := by
  have greatest := Binary64.isGreatestOf_greatest (qualitiesAt accepted scope)
  constructor
  · -- Zero, or the quality of a range of the scope.
    refine greatest.attained.imp_right fun inside => ?_
    obtain ⟨range, kept, same⟩ := List.mem_map.mp inside
    obtain ⟨member, told⟩ := List.mem_filter.mp kept
    exact ⟨range, member, (own range).mp (of_decide_eq_true told), same⟩
  · have least := Binary64.value_le_of_rank_le greatest.nonneg
    rwa [Binary64.value_zero] at least
  · intro range member kinded
    apply Binary64.value_le_of_rank_le
    apply greatest.above _ _ (isNaN_of_isFinite (finite range member))
    exact List.mem_map_of_mem
      (List.mem_filter.mpr ⟨member, decide_eq_true ((own range).mpr kinded)⟩)

/-- Whether a quality is the one of a type: the best one of the ranges with both of its names where
there are any, else of those with its main type and a star, else of those for all types. Without
ranges at all it is one. -/
structure IsQualityOf (accepted : List MediaRange) (main sub : Text) (quality : Binary64) :
    Prop where
  exact : (∃ range ∈ accepted, range.main = main ∧ range.sub = sub) →
    IsBest accepted (fun range => range.main = main ∧ range.sub = sub) quality
  -- Less specific ranges count only where there are no more specific ones.
  wide : (¬∃ range ∈ accepted, range.main = main ∧ range.sub = sub) →
    (∃ range ∈ accepted, range.main = main ∧ range.sub = ['*']) →
    IsBest accepted (fun range => range.main = main ∧ range.sub = ['*']) quality
  every : (¬∃ range ∈ accepted, range.main = main ∧ range.sub = sub) →
    (¬∃ range ∈ accepted, range.main = main ∧ range.sub = ['*']) → accepted ≠ [] →
    IsBest accepted (fun range => range.main = ['*']) quality
  free : accepted = [] → quality = Binary64.one

/-- A type whose names are no stars has the weight of the ranges that name it most closely. -/
theorem isQualityOf_qualityOf {accepted : List MediaRange}
    (finite : ∀ range ∈ accepted, range.quality.isFinite = true) {main sub : Text}
    (cut : '/' ∉ main) (named : main ≠ ['*']) (named' : sub ≠ ['*']) :
    IsQualityOf accepted main sub
      ((Weights.ofRanges accepted).qualityOf (main ++ '/' :: sub)) := by
  -- Since the names are no stars, the scope of a range is told by its two names.
  have own (range : MediaRange) : range.scope = .type main sub ↔
      range.main = main ∧ range.sub = sub := range.scope_eq_type_iff named named'
  have wide (range : MediaRange) : range.scope = .main main ↔
      range.main = main ∧ range.sub = ['*'] := range.scope_eq_main_iff named
  have every (range : MediaRange) : range.scope = .all ↔ range.main = ['*'] :=
    range.scope_eq_all_iff
  have exactWeight := Weights.at?_ofRanges accepted (show Scope.type main sub ≠ .all by simp)
  have wideWeight := Weights.at?_ofRanges accepted (show Scope.main main ≠ .all by simp)
  -- A scope has qualities exactly when some range is of it.
  have exactAny : qualitiesAt accepted (.type main sub) ≠ [] ↔
      ∃ range ∈ accepted, range.main = main ∧ range.sub = sub := by
    rw [qualitiesAt_ne_nil_iff]
    simp only [own]
  have wideAny : qualitiesAt accepted (.main main) ≠ [] ↔
      ∃ range ∈ accepted, range.main = main ∧ range.sub = ['*'] := by
    rw [qualitiesAt_ne_nil_iff]
    simp only [wide]
  rw [Weights.qualityOf_append _ cut]
  -- The weights are asked for in turn, and a weight is missing exactly when no range has its scope.
  constructor
  · intro some
    rw [exactWeight, if_neg (exactAny.mpr some)]
    exact isBest_greatest finite own
  · intro none some
    rw [exactWeight, if_pos (not_not.mp (mt exactAny.mp none)), wideWeight,
      if_neg (wideAny.mpr some)]
    exact isBest_greatest finite wide
  · intro none none' some
    rw [exactWeight, if_pos (not_not.mp (mt exactAny.mp none)), wideWeight,
      if_pos (not_not.mp (mt wideAny.mp none')), Weights.others_ofRanges, if_neg some]
    exact isBest_greatest finite every
  · intro none
    subst none
    rfl

/-- The types whose quality is not zero, each with its quality. -/
def qualified (quality : Text → Binary64) (available : List Text) : List (Text × Binary64) :=
  (available.filter fun mediaType => (quality mediaType).value ≠ 0).map fun mediaType =>
    (mediaType, quality mediaType)

/-- Whether types are ranked by a quality: those whose quality is not zero are there as often as
before, by descending quality, and those of one quality stand as before. -/
structure IsRanking (quality : Text → Binary64) (available : List Text)
    (ranked : List (Text × Binary64)) : Prop where
  perm : ranked.Perm (qualified quality available)
  ordered : ranked.Pairwise fun first second => second.2.value ≤ first.2.value
  stable : ∀ x, ranked.filter (fun entry => entry.2 = x) =
    (qualified quality available).filter fun entry => entry.2 = x

/-- A ranking is the sorted list of the types whose weight is not zero. -/
theorem rank_eq (accepted : List MediaRange) (available : List Text) :
    rank accepted available =
      (qualified (Weights.ofRanges accepted).qualityOf available).mergeSort
        fun a b => b.2.rank ≤ a.2.rank := by
  rw [rank, qualified, List.filter_map]
  -- A number is a zero, of either sign, exactly when its value is zero.
  refine congrArg (fun types => List.mergeSort (List.map _ types) _) ?_
  apply List.filter_congr
  intro mediaType _
  rw [Function.comp_apply, Bool.eq_iff_iff, decide_eq_true_eq, Bool.not_eq_true',
    ← Bool.not_eq_true, Binary64.isZero_iff]

/-- The types with a weight are ranked by it. -/
theorem isRanking_rank (accepted : List MediaRange) (available : List Text) :
    IsRanking (Weights.ofRanges accepted).qualityOf available (rank accepted available) := by
  have trans := descending_trans fun entry : Text × Binary64 => entry.2.rank
  have total := descending_total fun entry : Text × Binary64 => entry.2.rank
  rw [rank_eq]
  constructor
  · exact List.mergeSort_perm _ _
  · refine (List.pairwise_mergeSort trans total _).imp fun order => ?_
    exact Binary64.value_le_of_rank_le (of_decide_eq_true order)
  · intro x
    apply filter_mergeSort trans total
    intro a b first second
    -- Both have the same number, so neither has to stand first.
    rw [of_decide_eq_true first, of_decide_eq_true second]
    exact decide_eq_true (Int.le_refl _)

/-- Which ranges there are tells the whole ranking. -/
theorem rank_congr {accepted others : List MediaRange}
    (same : ∀ range, range ∈ accepted ↔ range ∈ others) (available : List Text) :
    rank accepted available = rank others available := by
  have weights : (Weights.ofRanges accepted).qualityOf = (Weights.ofRanges others).qualityOf := by
    -- A weight is read off the tables at three scopes, and at each of them they agree.
    funext mediaType
    have every : (Weights.ofRanges accepted).others = (Weights.ofRanges others).others :=
      Option.some.inj (Weights.ofRanges_congr same .all)
    have exact (main sub : Text) := Weights.ofRanges_congr same (.type main sub)
    have wide (main : Text) := Weights.ofRanges_congr same (.main main)
    unfold Weights.at? at exact wide
    dsimp only at exact wide
    unfold Weights.qualityOf
    simp only [exact, wide, every]
  rw [rank_eq, rank_eq, weights]

/-- Whether a text is a media type of two names without stars. -/
def IsConcrete (mediaType : Text) : Prop := '/' ∈ mediaType ∧ '*' ∉ mediaType

instance : DecidablePred IsConcrete := fun _ => inferInstanceAs (Decidable (_ ∧ _))

/-- A media type is cut into its names at its first slash, and neither of them is a star. -/
theorem IsConcrete.exists_names {mediaType : Text} (concrete : IsConcrete mediaType) :
    ∃ main sub, mediaType = main ++ '/' :: sub ∧ '/' ∉ main ∧ main ≠ ['*'] ∧ sub ≠ ['*'] := by
  -- A name that is a star would bring one into the media type.
  obtain ⟨slash, plain⟩ := concrete
  obtain ⟨main, sub, rfl, cut⟩ := List.eq_append_cons_of_mem slash
  refine ⟨main, sub, rfl, cut, ?_, ?_⟩
  · intro star
    simp [star] at plain
  · intro star
    simp [star] at plain

/-- Accepted ranges rank the available types by nothing but which ranges there are. A type has the
best quality of the ranges that name it most closely, those of quality zero are left out, and the
others stand by descending quality, those of one quality as before. -/
theorem rank_by_specificity {accepted : List MediaRange}
    (finite : ∀ range ∈ accepted, range.quality.isFinite = true) {available : List Text}
    (concrete : ∀ mediaType ∈ available, IsConcrete mediaType) :
    (∀ others, (∀ range, range ∈ others ↔ range ∈ accepted) →
      rank others available = rank accepted available) ∧
    ∃ quality : Text → Binary64,
      (∀ mediaType ∈ available, ∃ main sub, mediaType = main ++ '/' :: sub ∧ '/' ∉ main ∧
        IsQualityOf accepted main sub (quality mediaType)) ∧
      IsRanking quality available (rank accepted available) := by
  -- The quality that is asked for is the weight of a type.
  refine ⟨fun others same => rank_congr same available, _, fun mediaType inside => ?_,
    isRanking_rank accepted available⟩
  obtain ⟨main, sub, rfl, cut, named, named'⟩ := (concrete mediaType inside).exists_names
  exact ⟨main, sub, rfl, cut, isQualityOf_qualityOf finite cut named named'⟩

/-- A range of quality zero refuses its type, whatever the wider ranges say, and a type that is
available twice is ranked twice. -/
theorem rank_by_specificity_refused :
    let half := Binary64.ofRatio false 1 2
    let tenth := Binary64.ofRatio false 1 10
    let accepted : List MediaRange := [⟨"text", "*", tenth⟩, ⟨"text", "html", Binary64.zero⟩,
      ⟨"text", "*", half⟩, ⟨"*", "*", tenth⟩]
    let available : List Text := ["a/b", "text/html", "text/plain", "a/b"]
    (∀ range ∈ accepted, range.quality.isFinite = true) ∧
      (∀ mediaType ∈ available, IsConcrete mediaType) ∧
      rank accepted available =
        [("text/plain".toList, half), ("a/b".toList, tenth), ("a/b".toList, tenth)] ∧
      rank (accepted ++ accepted.reverse) available = rank accepted available := by
  intro half tenth accepted available
  have finite : ∀ range ∈ accepted, range.quality.isFinite = true := by decide +kernel
  have concrete : ∀ mediaType ∈ available, IsConcrete mediaType := by decide +kernel
  -- The type with the refusing range is left out, and the others keep their places.
  have told : qualified (Weights.ofRanges accepted).qualityOf available =
      [("a/b".toList, tenth), ("text/plain".toList, half), ("a/b".toList, tenth)] := by
    decide +kernel
  have order : tenth.rank < half.rank := by decide +kernel
  have ranked : rank accepted available =
      [("text/plain".toList, half), ("a/b".toList, tenth), ("a/b".toList, tenth)] := by
    rw [rank_eq, told]
    -- Only the order of the two numbers decides, so they are not looked into any more.
    clear_value half tenth
    simp [List.mergeSort, order.le, Int.not_le.mpr order]
  refine ⟨finite, concrete, ranked, ?_⟩
  apply (rank_by_specificity finite concrete).1
  simp

end RelyingParty.Accept
