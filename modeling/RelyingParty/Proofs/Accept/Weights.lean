import RelyingParty.Accept
import RelyingParty.Proofs.Number.Value
import RelyingParty.Proofs.Table

/-! The weights of ranges are collected in one pass: for each scope the greatest quality of the
ranges that have it. -/

namespace RelyingParty

namespace Binary64

/-- The greater of two numbers is one of them. -/
theorem maximum_eq_or (x y : Binary64) : x.maximum y = x ∨ x.maximum y = y := by
  -- In turn: the first is no number, the second is none, the second is above, it is not.
  unfold maximum
  split
  · exact .inr rfl
  split
  · exact .inl rfl
  split
  · exact .inr rfl
  · exact .inl rfl

/-- The greater one is at least the first one, and a number when that is. -/
theorem maximum_left {x : Binary64} (number : x.isNaN = false) (y : Binary64) :
    (x.maximum y).isNaN = false ∧ x.rank ≤ (x.maximum y).rank := by
  -- A number is replaced by a greater number only.
  unfold maximum
  rw [number, if_neg Bool.false_ne_true]
  split
  · exact ⟨number, Int.le_refl _⟩
  · rename_i number'
    split
    · exact ⟨by simpa using number', by omega⟩
    · exact ⟨number, Int.le_refl _⟩

/-- It is at least the second one when that is a number. -/
theorem maximum_right (x : Binary64) {y : Binary64} (number : y.isNaN = false) :
    y.rank ≤ (x.maximum y).rank := by
  -- Whatever else is kept is no less than the number.
  unfold maximum
  rw [number, if_neg Bool.false_ne_true]
  split
  · exact Int.le_refl _
  split
  · exact Int.le_refl _
  · omega

/-- The greatest of zero and some qualities, read one after another. -/
def greatest (qualities : List Binary64) : Binary64 := qualities.foldl maximum zero

/-- Whether a number is the greatest of zero and some qualities; those that are no numbers do not
count. -/
structure IsGreatestOf (qualities : List Binary64) (x : Binary64) : Prop where
  number : x.isNaN = false
  attained : x = zero ∨ x ∈ qualities
  nonneg : zero.rank ≤ x.rank
  above : ∀ y ∈ qualities, y.isNaN = false → y.rank ≤ x.rank

/-- From a number on, every quality that is read leaves the greatest one. -/
theorem foldl_maximum {start : Binary64} (number : start.isNaN = false)
    (qualities : List Binary64) :
    let last := qualities.foldl maximum start
    last.isNaN = false ∧ (last = start ∨ last ∈ qualities) ∧ start.rank ≤ last.rank ∧
      ∀ y ∈ qualities, y.isNaN = false → y.rank ≤ last.rank := by
  -- What was read so far is kept, or the next quality is in its place.
  induction qualities generalizing start with
  | nil => exact ⟨number, .inl rfl, Int.le_refl _, by simp⟩
  | cons quality rest ih =>
    obtain ⟨number', order⟩ := maximum_left number quality
    obtain ⟨last, attained, least, above⟩ := ih number'
    refine ⟨last, ?_, order.trans least, ?_⟩
    · -- The last one is attained by what is held now, or later.
      rcases attained with same | inside
      · rcases maximum_eq_or start quality with kept | taken
        · exact .inl (same.trans kept)
        · exact .inr (List.mem_cons.mpr (.inl (same.trans taken)))
      · exact .inr (List.mem_cons_of_mem _ inside)
    · -- A quality is below what is held behind it, which is below the last one.
      intro y inside number
      rcases List.mem_cons.mp inside with rfl | later
      · exact (maximum_right start number).trans least
      · exact above y later number

/-- Reading all qualities leaves the greatest of them and zero. -/
theorem isGreatestOf_greatest (qualities : List Binary64) :
    IsGreatestOf qualities (greatest qualities) := by
  -- The qualities are read from zero on, which is a number itself.
  have number : zero.isNaN = false := rfl
  obtain ⟨number, attained, least, above⟩ := foldl_maximum number qualities
  exact ⟨number, attained, least, above⟩

/-- The greatest quality is told by which qualities there are. -/
theorem IsGreatestOf.unique {qualities others : List Binary64} {x y : Binary64}
    (same : ∀ quality, quality ∈ qualities ↔ quality ∈ others) (first : IsGreatestOf qualities x)
    (second : IsGreatestOf others y) : x = y := by
  -- Each of the two is attained, and the other one is above all that can be.
  have upper {qualities : List Binary64} {x y : Binary64} (number : x.isNaN = false)
      (attained : x = zero ∨ x ∈ qualities) (greatest : IsGreatestOf qualities y) :
      x.rank ≤ y.rank := by
    rcases attained with rfl | inside
    · exact greatest.nonneg
    · exact greatest.above x inside number
  apply rank_injective
  apply Int.le_antisymm
  · exact upper first.number (first.attained.imp_right (same x).mp) second
  · exact upper second.number (second.attained.imp_right (same y).mpr) first

end Binary64

namespace Accept

/-- What a range tells of: one type, all types with a main type, or all types. -/
inductive Scope where
  | type (main sub : Text)
  | main (main : Text)
  | all
  deriving DecidableEq

/-- The scope of a range. -/
def MediaRange.scope (range : MediaRange) : Scope :=
  if range.main = ['*'] then .all
  else if range.sub = ['*'] then .main range.main
  else .type range.main range.sub

/-- The weight for a scope, when a range had it. -/
def Weights.at? (weights : Weights) : Scope → Option Binary64
  | .type main sub => (weights.exact.get? main).bind fun subs => subs.get? sub
  | .main main => weights.mains.get? main
  | .all => some weights.others

/-- Raises the weight of a scope to a quality. -/
def raised (weight : Option Binary64) (quality : Binary64) : Option Binary64 :=
  some ((weight.getD Binary64.zero).maximum quality)

/-- The qualities of the ranges of a scope. -/
def qualitiesAt (accepted : List MediaRange) (scope : Scope) : List Binary64 :=
  (accepted.filter (·.scope = scope)).map MediaRange.quality

/-- A scope has qualities when it has a range. -/
theorem qualitiesAt_ne_nil_iff {accepted : List MediaRange} {scope : Scope} :
    qualitiesAt accepted scope ≠ [] ↔ ∃ range ∈ accepted, range.scope = scope := by
  simp [qualitiesAt, List.filter_eq_nil_iff]

/-- Raising the quality under a name leaves those under other names. -/
theorem get?_raise (name wanted : Text) (quality : Binary64) (table : Table Binary64) :
    (raise name quality table).get? wanted =
      if name = wanted then raised (table.get? wanted) quality else table.get? wanted := by
  -- The raised weight is inserted under the one name.
  rw [raise, Table.get?_insert]
  by_cases same : name = wanted
  · rw [if_pos same, if_pos same, same, raised]
  · rw [if_neg same, if_neg same]

/-- One more range raises the weight of its scope alone. -/
theorem Weights.at?_add (weights : Weights) (range : MediaRange) (scope : Scope) :
    (weights.add range).at? scope =
      if range.scope = scope then raised (weights.at? scope) range.quality
      else weights.at? scope := by
  -- The three kinds of ranges raise different tables, each under the names of its scope.
  unfold Weights.add MediaRange.scope
  by_cases every : range.main = ['*']
  · rw [if_pos every, if_pos every]
    cases scope <;> simp [at?, raised]
  rw [if_neg every, if_neg every]
  by_cases wide : range.sub = ['*']
  · rw [if_pos wide, if_pos wide]
    cases scope with
    | main main => simp only [at?, get?_raise, Scope.main.injEq]
    | type main sub => simp [at?]
    | all => simp [at?]
  · rw [if_neg wide, if_neg wide]
    cases scope with
    | main main => simp [at?]
    | all => simp [at?]
    | type main sub =>
      simp only [at?, Table.get?_insert, Scope.type.injEq]
      by_cases same : range.main = main
      · subst same
        -- A main type without subtypes is as one with an empty table of them.
        have old : ((weights.exact.get? range.main).getD []).get? sub =
            (weights.exact.get? range.main).bind fun subs => subs.get? sub := by
          cases weights.exact.get? range.main <;> rfl
        simp only [if_true, Option.bind_some, get?_raise, true_and, old]
      · simp [same]

/-- After all ranges each weight is raised by the qualities of its scope. -/
theorem Weights.at?_foldl (accepted : List MediaRange) (weights : Weights) (scope : Scope) :
    (accepted.foldl Weights.add weights).at? scope =
      (qualitiesAt accepted scope).foldl raised (weights.at? scope) := by
  -- A range of the scope comes in front of the other qualities, and any other changes nothing.
  induction accepted generalizing weights with
  | nil => rfl
  | cons range rest ih =>
    rw [List.foldl_cons, ih, at?_add, qualitiesAt, qualitiesAt]
    by_cases own : range.scope = scope
    · rw [if_pos own, List.filter_cons_of_pos (by simpa using own), List.map_cons,
        List.foldl_cons]
    · rw [if_neg own, List.filter_cons_of_neg (by simpa using own)]

/-- Raising some weight by all qualities takes it to the greatest one. -/
theorem foldl_raised (weight : Binary64) (qualities : List Binary64) :
    qualities.foldl raised (some weight) = some (qualities.foldl Binary64.maximum weight) := by
  -- Once there is a weight, each quality raises it to the greater of both.
  induction qualities generalizing weight with
  | nil => rfl
  | cons quality rest ih =>
    rw [List.foldl_cons, List.foldl_cons]
    exact ih _

/-- A scope has a weight when it has a range, and this is the greatest quality of its ranges. -/
theorem Weights.at?_ofRanges (accepted : List MediaRange) {scope : Scope} (named : scope ≠ .all) :
    (Weights.ofRanges accepted).at? scope =
      if qualitiesAt accepted scope = [] then none
      else some (Binary64.greatest (qualitiesAt accepted scope)) := by
  have start (others : Binary64) : (Weights.mk [] [] others).at? scope = none := by
    cases scope with
    | all => exact absurd rfl named
    | type main sub => rfl
    | main main => rfl
  -- The first quality of the scope is raised from zero.
  rw [ofRanges, at?_foldl, start]
  cases qualitiesAt accepted scope with
  | nil => rfl
  | cons quality rest =>
    rw [if_neg (List.cons_ne_nil _ _), List.foldl_cons]
    exact foldl_raised _ rest

/-- A scope that no range has is without a weight. -/
theorem Weights.at?_ofRanges_eq_none {accepted : List MediaRange} {scope : Scope}
    (named : scope ≠ .all) (absent : ∀ range ∈ accepted, range.scope ≠ scope) :
    (Weights.ofRanges accepted).at? scope = none := by
  -- No range with the scope means no quality to raise its weight.
  have empty : qualitiesAt accepted scope = [] := by
    rw [qualitiesAt, List.map_eq_nil_iff, List.filter_eq_nil_iff]
    intro range inside same
    exact absent range inside (of_decide_eq_true same)
  rw [at?_ofRanges accepted named, if_pos empty]

/-- The weight for all types is one without ranges, and otherwise the greatest quality of the ranges
for all types. -/
theorem Weights.others_ofRanges (accepted : List MediaRange) :
    (Weights.ofRanges accepted).others =
      if accepted = [] then Binary64.one else Binary64.greatest (qualitiesAt accepted .all) := by
  have whole := at?_foldl accepted ⟨[], [], if accepted = [] then .one else .zero⟩ .all
  have start (others : Binary64) : (Weights.mk [] [] others).at? .all = some others := rfl
  rw [start, foldl_raised] at whole
  refine (Option.some.inj whole).trans ?_
  -- Without ranges no quality raises the one that it begins with.
  split
  · rename_i none
    rw [none]
    rfl
  · rfl

/-- The scope of a range has the greatest quality of the ranges with this scope. -/
theorem Weights.at?_scope {accepted : List MediaRange} {range : MediaRange}
    (inside : range ∈ accepted) :
    (Weights.ofRanges accepted).at? range.scope =
      some (Binary64.greatest (qualitiesAt accepted range.scope)) := by
  -- The weight for all types has a place of its own, and the others are in a table.
  by_cases every : range.scope = .all
  · rw [every]
    refine congrArg some ?_
    rw [others_ofRanges, if_neg (List.ne_nil_of_mem inside)]
  · have own : qualitiesAt accepted range.scope ≠ [] :=
      qualitiesAt_ne_nil_iff.mpr ⟨range, inside, rfl⟩
    rw [at?_ofRanges accepted every, if_neg own]

/-- The weights are told by which ranges there are, in any order and any number. -/
theorem Weights.ofRanges_congr {accepted others : List MediaRange}
    (same : ∀ range, range ∈ accepted ↔ range ∈ others) (scope : Scope) :
    (Weights.ofRanges accepted).at? scope = (Weights.ofRanges others).at? scope := by
  have qualities (scope : Scope) (quality : Binary64) :
      quality ∈ qualitiesAt accepted scope ↔ quality ∈ qualitiesAt others scope := by
    simp only [qualitiesAt, List.mem_map, List.mem_filter, same]
  have greatest (scope : Scope) : Binary64.greatest (qualitiesAt accepted scope) =
      Binary64.greatest (qualitiesAt others scope) :=
    (Binary64.isGreatestOf_greatest _).unique (qualities scope) (Binary64.isGreatestOf_greatest _)
  -- The weight for all types also depends on whether there are ranges.
  by_cases every : scope = .all
  · rw [every]
    refine congrArg some ?_
    rw [others_ofRanges, others_ofRanges, greatest]
    simp only [List.eq_nil_iff_forall_not_mem, same]
  · rw [at?_ofRanges accepted every, at?_ofRanges others every, greatest]
    simp only [List.eq_nil_iff_forall_not_mem, qualities]

end Accept

end RelyingParty
