import RelyingParty.Proofs.Text.Parts
import RelyingParty.Proofs.Uri.Path

/-! What is left of an absolute path without its dot segments is a stack onto which the segments of
the path are read. -/

namespace RelyingParty.Uri

/-- The absolute path with some segments: a slash, and slashes between them. -/
def absolutePath (segments : List Text) : Text := '/' :: ['/'].intercalate segments

/-- The stack after the segments of a path are read onto it, from left to right. -/
def stackAfter (stack : List Text) : List Text → List Text
  | [] => stack
  | [last] => pushLast stack last
  | segment :: next :: segments => stackAfter (push stack segment) (next :: segments)

/-- A path with segments has each of them behind a slash. -/
theorem absolutePath_eq_slashed {segments : List Text} (nonempty : segments ≠ []) :
    absolutePath segments = slashed segments := by
  induction segments with
  | nil => exact absurd rfl nonempty
  | cons segment segments ih =>
    cases segments with
    | nil => simp [absolutePath, slashed]
    | cons next segments =>
      -- The slash between this segment and the next one is the slash in front of the next one.
      have rest := ih (List.cons_ne_nil next segments)
      rw [absolutePath] at rest ⊢
      rw [List.intercalate_cons_of_ne_nil (List.cons_ne_nil next segments)]
      simp [slashed, rest]

/-- The parts of an absolute path are an empty one in front of the slash, and its segments. -/
theorem splitAll_absolutePath {segments : List Text} (nonempty : segments ≠ [])
    (absent : ∀ segment ∈ segments, '/' ∉ segment) :
    Text.splitAll '/' (absolutePath segments) = [] :: segments := by
  -- The path begins with a slash, which has nothing in front of it.
  have parts := Text.splitAll_append_mark '/' [] (['/'].intercalate segments)
  rw [Text.splitAll_eq_splitOn '/' (['/'].intercalate segments),
    List.splitOn_intercalate '/' absent nonempty] at parts
  exact parts

/-- The last segment is read in its own way, and those in front of it are pushed. -/
theorem stackAfter_concat (stack segments : List Text) (last : Text) :
    stackAfter stack (segments ++ [last]) = pushLast (segments.foldl push stack) last := by
  induction segments generalizing stack with
  | nil => rfl
  | cons segment segments ih =>
    -- There is another segment behind this one, at least the last.
    have nonempty : segments ++ [last] ≠ [] := by simp
    obtain ⟨next, more, whole⟩ := List.exists_cons_of_ne_nil nonempty
    rw [List.cons_append, whole, stackAfter, ← whole, ih, List.foldl_cons]

/-- Reading the segments of a path leaves one on the stack. -/
theorem stackAfter_ne_nil (stack : List Text) {segments : List Text} (nonempty : segments ≠ []) :
    stackAfter stack segments ≠ [] := by
  -- Whatever the last segment is, one is on the stack after it.
  obtain ⟨front, last, rfl⟩ := (List.eq_nil_or_concat' segments).resolve_left nonempty
  rw [stackAfter_concat]
  exact pushLast_ne_nil _ last

/-- An absolute path without its dot segments has those segments that are left on the stack. -/
theorem removeDotSegments_absolutePath {segments : List Text}
    (absent : ∀ segment ∈ segments, '/' ∉ segment) :
    removeDotSegments (absolutePath segments) = absolutePath (stackAfter [] segments).reverse := by
  rcases List.eq_nil_or_concat' segments with rfl | ⟨front, last, rfl⟩
  · -- Without segments the path is the root, which has one empty segment.
    have slash : removeDotSegments (slashed [[]]) = slashed [[]] :=
      removeDotSegments_of_not_dotted (by simp) (by simp [isDotted])
    exact slash
  · have nonempty : front ++ [last] ≠ [] := by simp
    have left := stackAfter_ne_nil [] nonempty
    rw [absolutePath_eq_slashed nonempty, absolutePath_eq_slashed (by simpa using left),
      stackAfter_concat]
    exact removeDotSegments_slashed
      (fun segment inside => absent segment (List.mem_append_left _ inside))
      (absent last (by simp))

/-- A segment makes a path longer by a slash and itself. -/
theorem length_slashed_cons (segment : Text) (segments : List Text) :
    (slashed (segment :: segments)).length = segment.length + 1 + (slashed segments).length := by
  rw [slashed, List.flatMap_cons, List.length_append, List.length_cons]
  rfl

/-- The path of a stack is as long from either end. -/
theorem length_slashed_reverse (segments : List Text) :
    (slashed segments.reverse).length = (slashed segments).length :=
  ((List.reverse_perm segments).flatMap_right _).length_eq

/-- Without its top a stack has a path that is no longer. -/
theorem length_slashed_tail_le (stack : List Text) :
    (slashed stack.tail).length ≤ (slashed stack).length := by
  cases stack with
  | nil => exact Nat.le_refl _
  | cons top stack =>
    rw [length_slashed_cons, List.tail_cons]
    omega

/-- A segment makes the path of the stack longer by a slash and itself, if at all. -/
theorem length_slashed_push_le (stack : List Text) (segment : Text) :
    (slashed (push stack segment)).length ≤ segment.length + 1 + (slashed stack).length := by
  -- A segment changes nothing, drops one, or piles up.
  unfold push
  split
  · omega
  split
  · have shorter := length_slashed_tail_le stack
    omega
  · exact Nat.le_of_eq (length_slashed_cons segment stack)

/-- So does the last one: dots are no shorter than the empty segment that follows them. -/
theorem length_slashed_pushLast_le (stack : List Text) (last : Text) :
    (slashed (pushLast stack last)).length ≤ last.length + 1 + (slashed stack).length := by
  unfold pushLast
  split
  · -- Dots push no segment, which leaves room for the slash of the empty one.
    rename_i dotted
    have below : (slashed (push stack last)).length ≤ (slashed stack).length := by
      rcases Bool.or_eq_true_iff.mp dotted with one | two
      · exact Nat.le_of_eq (by rw [push, if_pos (of_decide_eq_true one)])
      · rw [of_decide_eq_true two]
        exact length_slashed_tail_le stack
    rw [length_slashed_cons, List.length_nil]
    omega
  · exact length_slashed_push_le stack last

/-- The path of the stack is no longer than the path that is read onto it. -/
theorem length_slashed_stackAfter_le (stack segments : List Text) :
    (slashed (stackAfter stack segments)).length ≤
      (slashed segments).length + (slashed stack).length := by
  -- Each segment adds to the stack no more than it takes from the path.
  induction stack, segments using stackAfter.induct with
  | case1 stack => exact Nat.le_add_left _ _
  | case2 stack last =>
    rw [stackAfter, length_slashed_cons last]
    exact length_slashed_pushLast_le stack last
  | case3 stack segment next segments ih =>
    have read := length_slashed_push_le stack segment
    rw [stackAfter, length_slashed_cons segment]
    omega

/-- An absolute path without its dot segments is the one that is left when its segments are read
onto a stack. It is absolute, has no dot segments, is no longer, and stays as it is. -/
theorem removeDotSegments_resolves :
    (∀ segments : List Text, (∀ segment ∈ segments, '/' ∉ segment) →
      removeDotSegments (absolutePath segments) =
        absolutePath (stackAfter [] segments).reverse) ∧
    ∀ path : Text, path.head? = some '/' →
      (removeDotSegments path).head? = some '/' ∧
        (∀ segment ∈ Text.splitAll '/' (removeDotSegments path), isDotted segment = false) ∧
        (removeDotSegments path).length ≤ path.length ∧
        removeDotSegments (removeDotSegments path) = removeDotSegments path := by
  refine ⟨fun segments absent => removeDotSegments_absolutePath absent, fun path starts => ?_⟩
  obtain ⟨segments, left, whole, removed, nonempty, members⟩ := exists_removeDotSegments starts
  have absent : ∀ segment ∈ left, '/' ∉ segment := fun segment inside => (members segment inside).1
  have plain : ∀ segment ∈ left, isDotted segment = false :=
    fun segment inside => (members segment inside).2.1
  have absolute : removeDotSegments path = absolutePath left := by
    rw [removed, absolutePath_eq_slashed nonempty]
  refine ⟨by rw [absolute]; rfl, ?_, ?_, ?_⟩
  · -- The parts of the result are the segments that are left, behind an empty one.
    rw [absolute, splitAll_absolutePath nonempty absent]
    exact List.forall_mem_cons.mpr ⟨rfl, plain⟩
  · -- What is left is the path of the stack, from its lower end.
    have slash : ∀ c ∈ path.head?, c = '/' := by simp [starts]
    obtain ⟨read, same, absent'⟩ := exists_slashed_of_head slash
    have some' : read ≠ [] := by
      rintro rfl
      simp [same, slashed] at starts
    have shorter := length_slashed_stackAfter_le [] read
    rw [same, ← absolutePath_eq_slashed some', removeDotSegments_absolutePath absent',
      absolutePath_eq_slashed (by simpa using stackAfter_ne_nil [] some'), length_slashed_reverse,
      absolutePath_eq_slashed some']
    exact shorter
  · -- None of these segments is pushed in another way than as it is.
    rw [removed]
    exact removeDotSegments_of_not_dotted absent plain

/-- Two dots at the root drop nothing, and at the end they leave an empty segment behind another
one. -/
theorem removeDotSegments_resolves_above_root :
    removeDotSegments "/../a//b/.." = "/a//" ∧ removeDotSegments "/a//" = "/a//" := by
  -- The last dots drop `b`, and leave an empty segment behind the one between the slashes.
  have left : removeDotSegments "/../a//b/.." = "/a//" :=
    removeDotSegments_resolves.1 ["..", "a", "", "b", ".."] (by decide)
  have fixed := (removeDotSegments_resolves.2 "/../a//b/.." rfl).2.2.2
  rw [left] at fixed
  exact ⟨left, fixed⟩

end RelyingParty.Uri
