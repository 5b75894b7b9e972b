import RelyingParty.Proofs.Uri.Canonical
import RelyingParty.Uri.Path

/-! Dot segments are taken out of a path as its segments are read onto a stack. -/

namespace RelyingParty.Uri

/-- The text of a path, each of its segments behind a slash. -/
def slashed (segments : List Text) : Text := segments.flatMap ('/' :: ·)

/-- Paths one after the other have the segments of both. -/
theorem slashed_append (front back : List Text) :
    slashed (front ++ back) = slashed front ++ slashed back := List.flatMap_append

/-- With a slash behind it a path begins with one. -/
theorem head?_slashed_append (segments : List Text) (back : Text) :
    (slashed segments ++ '/' :: back).head? = some '/' := by
  cases segments with
  | nil => rfl
  | cons segment segments => rfl

/-- Whether a segment is one dot or two. -/
def isDotted (segment : Text) : Bool := segment = ['.'] || segment = ['.', '.']

/-- The stack of segments after one more: a dot is passed over, and two dots drop the last one. -/
def push (stack : List Text) (segment : Text) : List Text :=
  if segment = ['.'] then stack else if segment = ['.', '.'] then stack.tail else segment :: stack

/-- The stack after the last segment; dots at the end of a path leave an empty segment. -/
def pushLast (stack : List Text) (segment : Text) : List Text :=
  if isDotted segment then [] :: push stack segment else push stack segment

/-- The texts that are kept for a stack of segments. -/
def kept (stack : List Text) : List Text := stack.map ('/' :: ·)

/-- Dropping the last segment drops its text. -/
theorem kept_tail (stack : List Text) : (kept stack).tail = kept stack.tail := by
  cases stack with
  | nil => rfl
  | cons segment stack => rfl

/-- The kept texts are those of the segments in the order of the path. -/
theorem flatten_reverse_kept (stack : List Text) :
    (kept stack).reverse.flatten = slashed stack.reverse := by
  rw [kept, ← List.map_reverse, slashed, List.flatMap_def]

/-- Segments that are no dots pile up. -/
theorem push_of_not_dotted {segment : Text} (plain : isDotted segment = false)
    (stack : List Text) : push stack segment = segment :: stack := by
  -- It is neither one dot nor two.
  simp only [isDotted, Bool.or_eq_false_iff, decide_eq_false_iff_not] at plain
  rw [push, if_neg plain.1, if_neg plain.2]

/-- The last segment leaves one on the stack. -/
theorem pushLast_ne_nil (stack : List Text) (last : Text) : pushLast stack last ≠ [] := by
  -- Dots at the end leave an empty segment.
  cases dotted : isDotted last with
  | true => simp [pushLast, dotted]
  | false => simp [pushLast, dotted, push_of_not_dotted dotted]

/-- A segment ends at the next slash, or where the path does. -/
theorem firstSegment_append {segment rest : Text} (absent : '/' ∉ segment)
    (starts : ∀ c ∈ rest.head?, c = '/') :
    firstSegment ('/' :: (segment ++ rest)) = ('/' :: segment, rest) := by
  -- No character of the segment is a slash, and the next one is.
  have all : ∀ c ∈ segment, decide (c ≠ '/') = true :=
    fun c inside => decide_eq_true fun same => absent (same ▸ inside)
  have stops : ∀ c ∈ rest.head?, decide (c ≠ '/') = false := fun c first => by simp [starts c first]
  obtain ⟨front, behind⟩ := Text.span_append all stops
  rw [firstSegment, front, behind]

/-- A segment that is no dots is kept. -/
theorem resolveDots_of_not_dotted {segment rest : Text} (plain : isDotted segment = false)
    (absent : '/' ∉ segment) (starts : ∀ c ∈ rest.head?, c = '/') (stack : List Text) :
    resolveDots (kept stack) ('/' :: (segment ++ rest)) =
      resolveDots (kept (segment :: stack)) rest := by
  have first := firstSegment_append absent starts
  -- The path does not begin with dots, as its first segment would be those dots.
  have other : ∀ dots back, isDotted dots = true → '/' ∉ dots → (∀ c ∈ back.head?, c = '/') →
      segment ++ rest ≠ dots ++ back := by
    intro dots back dotted slash starts' same
    rw [same, firstSegment_append slash starts'] at first
    cases first
    rw [plain] at dotted
    cases dotted
  -- What is left is that none of the branches for dots applies.
  rw [resolveDots, first]
  · rfl
  · exact fun _ differs => absurd differs (by decide)
  · exact fun _ differs => absurd differs (by decide)
  · exact fun back _ => other ['.'] ('/' :: back) rfl (by decide) (by simp)
  · exact fun _ => other ['.'] [] rfl (by decide) (by simp)
  · exact fun back _ => other ['.', '.'] ('/' :: back) rfl (by decide) (by simp)
  · exact fun _ => other ['.', '.'] [] rfl (by decide) (by simp)
  · exact fun differs => absurd differs (by decide)
  · exact fun differs => absurd differs (by decide)

/-- A segment with a slash behind it is read onto the stack. -/
theorem resolveDots_slash {segment : Text} (absent : '/' ∉ segment) (stack : List Text)
    (rest : Text) :
    resolveDots (kept stack) ('/' :: (segment ++ '/' :: rest)) =
      resolveDots (kept (push stack segment)) ('/' :: rest) := by
  -- The two kinds of dots are read by rules of their own, and all else is a segment.
  by_cases one : segment = ['.']
  · subst one
    show resolveDots (kept stack) ('/' :: '.' :: '/' :: rest) = _
    rw [resolveDots]
    rfl
  by_cases two : segment = ['.', '.']
  · subst two
    show resolveDots (kept stack) ('/' :: '.' :: '.' :: '/' :: rest) = _
    rw [resolveDots, kept_tail]
    rfl
  have plain : isDotted segment = false := by simp [isDotted, one, two]
  rw [push_of_not_dotted plain, resolveDots_of_not_dotted plain absent (by simp)]

/-- At the end of a path a segment that is no dots is kept. -/
theorem resolveDots_last_of_not_dotted {segment : Text} (plain : isDotted segment = false)
    (absent : '/' ∉ segment) (stack : List Text) :
    resolveDots (kept stack) ('/' :: segment) = kept (segment :: stack) := by
  -- It is a segment with nothing behind it.
  have whole := resolveDots_of_not_dotted plain absent (by simp : ∀ c ∈ ([] : Text).head?, c = '/')
    stack
  rw [List.append_nil] at whole
  rw [whole, resolveDots]

/-- The last segment is read onto the stack; dots leave a slash, which an empty segment follows. -/
theorem resolveDots_last {segment : Text} (absent : '/' ∉ segment) (stack : List Text) :
    resolveDots (kept stack) ('/' :: segment) = kept (pushLast stack segment) := by
  -- Dots at the end are followed by an empty segment, which is read in their place.
  by_cases one : segment = ['.']
  · subst one
    rw [resolveDots, resolveDots_last_of_not_dotted rfl List.not_mem_nil]
    rfl
  by_cases two : segment = ['.', '.']
  · subst two
    rw [resolveDots, kept_tail, resolveDots_last_of_not_dotted rfl List.not_mem_nil]
    rfl
  have plain : isDotted segment = false := by simp [isDotted, one, two]
  rw [resolveDots_last_of_not_dotted plain absent, pushLast, plain, push_of_not_dotted plain]
  rfl

/-- All segments in front of a slash are read onto the stack in their order. -/
theorem resolveDots_slashed {segments : List Text} (plain : ∀ segment ∈ segments, '/' ∉ segment)
    (stack : List Text) (rest : Text) :
    resolveDots (kept stack) (slashed segments ++ '/' :: rest) =
      resolveDots (kept (segments.foldl push stack)) ('/' :: rest) := by
  induction segments generalizing stack with
  | nil => rfl
  | cons segment segments ih =>
    -- Whether more segments follow or not, a slash is behind this one.
    obtain ⟨back, next⟩ := List.head?_eq_some_iff.mp (head?_slashed_append segments rest)
    have whole :
        slashed (segment :: segments) ++ '/' :: rest = '/' :: (segment ++ '/' :: back) := by
      rw [← next]
      simp [slashed]
    rw [whole, resolveDots_slash (plain segment (.head _)), ← next,
      ih fun other inside => plain other (.tail _ inside)]
    rfl

/-- The path without its dots is that of the stack when all segments are read. -/
theorem removeDotSegments_slashed {segments : List Text} {last : Text}
    (plain : ∀ segment ∈ segments, '/' ∉ segment) (absent : '/' ∉ last) :
    removeDotSegments (slashed (segments ++ [last])) =
      slashed (pushLast (segments.foldl push []) last).reverse := by
  -- All but the last segment have a slash behind them.
  have whole : slashed (segments ++ [last]) = slashed segments ++ '/' :: last := by simp [slashed]
  have read := resolveDots_slashed plain [] last
  rw [resolveDots_last absent] at read
  rw [removeDotSegments, whole, ← flatten_reverse_kept, ← read]
  rfl

/-- A text is a segment and then more of them, each behind a slash. -/
theorem exists_slashed (text : Text) :
    ∃ first segments, text = first ++ slashed segments ∧ '/' ∉ first ∧
      ∀ segment ∈ segments, '/' ∉ segment := by
  -- A slash begins a new segment, and any other character belongs to the first one.
  induction text with
  | nil => exact ⟨[], [], rfl, List.not_mem_nil, by simp⟩
  | cons c rest ih =>
    obtain ⟨first, segments, rfl, absent, plain⟩ := ih
    by_cases slash : c = '/'
    · subst slash
      refine ⟨[], first :: segments, by simp [slashed], List.not_mem_nil, ?_⟩
      exact List.forall_mem_cons.mpr ⟨absent, plain⟩
    · exact ⟨c :: first, segments, rfl,
        List.not_mem_cons_of_ne_of_not_mem (Ne.symm slash) absent, plain⟩

/-- A path that begins with a slash, when it is not empty, consists of segments. -/
theorem exists_slashed_of_head {path : Text} (starts : ∀ c ∈ path.head?, c = '/') :
    ∃ segments, path = slashed segments ∧ ∀ segment ∈ segments, '/' ∉ segment := by
  -- Nothing stands in front of the first slash.
  obtain ⟨first, segments, rfl, absent, plain⟩ := exists_slashed path
  cases first with
  | nil => exact ⟨segments, rfl, plain⟩
  | cons c first => exact absurd (starts c rfl ▸ .head _) absent

/-- The stack holds segments of the path, and none of them is dots. -/
theorem mem_foldl_push {segments stack : List Text} {segment : Text}
    (inside : segment ∈ segments.foldl push stack) :
    segment ∈ stack ∨ segment ∈ segments ∧ isDotted segment = false := by
  -- A segment piles up, drops another one, or changes nothing.
  induction segments generalizing stack with
  | nil => exact .inl inside
  | cons other segments ih =>
    rcases ih inside with early | ⟨later, plain⟩
    · unfold push at early
      split at early
      · exact .inl early
      split at early
      · exact .inl (List.mem_of_mem_tail early)
      · rename_i one two
        rcases List.mem_cons.mp early with rfl | before
        · exact .inr ⟨.head _, by simp [isDotted, one, two]⟩
        · exact .inl before
    · exact .inr ⟨.tail _ later, plain⟩

/-- What is left of a path are segments of it, none of which is dots, and empty ones. -/
theorem exists_removeDotSegments {path : Text} (starts : path.head? = some '/') :
    ∃ segments left, path = slashed segments ∧ removeDotSegments path = slashed left ∧ left ≠ [] ∧
      ∀ segment ∈ left, '/' ∉ segment ∧ isDotted segment = false ∧
        (segment = [] ∨ segment ∈ segments) := by
  have slash : ∀ c ∈ path.head?, c = '/' := by simp [starts]
  obtain ⟨segments, rfl, plain⟩ := exists_slashed_of_head slash
  rcases List.eq_nil_or_concat' segments with rfl | ⟨front, last, rfl⟩
  · cases starts
  have plain' : ∀ segment ∈ front, '/' ∉ segment :=
    fun segment inside => plain segment (List.mem_append_left _ inside)
  have absent : '/' ∉ last := plain last (by simp)
  -- Reading the last segment is one push more, and dots leave an empty segment on top of it.
  let stack := (front ++ [last]).foldl push []
  have ends :
      pushLast (front.foldl push []) last = if isDotted last then [] :: stack else stack := by
    simp [stack, pushLast]
  have nonempty : pushLast (front.foldl push []) last ≠ [] := pushLast_ne_nil _ last
  refine ⟨_, _, rfl, removeDotSegments_slashed plain' absent, by simpa using nonempty, ?_⟩
  -- What is left is the stack from below, perhaps with the empty segment behind it.
  intro segment inside
  rw [List.mem_reverse, ends] at inside
  have within : segment = [] ∨ segment ∈ stack := by
    split at inside
    · exact List.mem_cons.mp inside
    · exact .inr inside
  rcases within with rfl | inside
  · exact ⟨List.not_mem_nil, rfl, .inl rfl⟩
  · rcases mem_foldl_push inside with none | ⟨member, undotted⟩
    · cases none
    · exact ⟨plain segment member, undotted, .inr member⟩

/-- Segments that are no dots are all on the stack, the last one on top. -/
theorem foldl_push_of_not_dotted {segments : List Text}
    (plain : ∀ segment ∈ segments, isDotted segment = false) (stack : List Text) :
    segments.foldl push stack = segments.reverse ++ stack := by
  -- No segment drops another one.
  induction segments generalizing stack with
  | nil => rfl
  | cons segment segments ih =>
    rw [List.foldl_cons, push_of_not_dotted (plain segment (.head _)),
      ih fun other inside => plain other (.tail _ inside)]
    simp

/-- A path without dots stays as it is. -/
theorem removeDotSegments_of_not_dotted {segments : List Text}
    (absent : ∀ segment ∈ segments, '/' ∉ segment)
    (plain : ∀ segment ∈ segments, isDotted segment = false) :
    removeDotSegments (slashed segments) = slashed segments := by
  rcases List.eq_nil_or_concat' segments with rfl | ⟨front, last, rfl⟩
  · rw [slashed, List.flatMap_nil, removeDotSegments, resolveDots]
    rfl
  -- Nothing is dropped, so the stack holds all the segments.
  have absent' : ∀ segment ∈ front, '/' ∉ segment :=
    fun segment inside => absent segment (List.mem_append_left _ inside)
  have plain' : ∀ segment ∈ front, isDotted segment = false :=
    fun segment inside => plain segment (List.mem_append_left _ inside)
  have top : isDotted last = false := plain last (by simp)
  rw [removeDotSegments_slashed absent' (absent last (by simp)), pushLast, top,
    push_of_not_dotted top, foldl_push_of_not_dotted plain']
  simp

/-- Segments that leave every stack as it is make no difference in front of a slash. -/
theorem removeDotSegments_inserted {front added : List Text}
    (absent : ∀ segment ∈ front ++ added, '/' ∉ segment)
    (same : ∀ stack, added.foldl push stack = stack) (back : Text) :
    removeDotSegments (slashed (front ++ added) ++ '/' :: back) =
      removeDotSegments (slashed front ++ '/' :: back) := by
  -- The stack is the same in front of the slash, and so is all behind it.
  have absent' : ∀ segment ∈ front, '/' ∉ segment :=
    fun segment inside => absent segment (List.mem_append_left _ inside)
  have whole := resolveDots_slashed absent [] back
  rw [List.foldl_append, same, ← resolveDots_slashed absent' [] back] at whole
  exact congrArg (fun texts => texts.reverse.flatten) whole

/-- A path begins with a slash, unless it has no segments. -/
theorem head?_slashed {segments : List Text} : ∀ c ∈ (slashed segments).head?, c = '/' := by
  cases segments with
  | nil => simp [slashed]
  | cons segment segments => simp [slashed]

/-- The slash in front of a path is a mark. -/
theorem isMark_of_head?_slashed {segments : List Text} :
    ∀ c ∈ (slashed segments).head?, isMark c = true := fun c first => by
  rw [head?_slashed c first]
  rfl

/-- A path is canonical when its segments are. -/
theorem canonical_slashed_iff {segments : List Text} :
    canonicalEscapes? (slashed segments) = some (slashed segments) ↔
      ∀ segment ∈ segments, canonicalEscapes? segment = some segment := by
  -- A slash is a mark, so every segment is read on its own.
  induction segments with
  | nil => simp [slashed, canonicalEscapes?]
  | cons segment segments ih =>
    have whole : slashed (segment :: segments) = '/' :: (segment ++ slashed segments) := rfl
    rw [List.forall_mem_cons, ← ih, ← canonical_append_iff isMark_of_head?_slashed, whole,
      canonicalEscapes?_cons (by decide)]
    simp

/-- The path of a URI: what is left without dots, or a slash when that is nothing. -/
def normalPath (path : Text) : Text :=
  let left := removeDotSegments path
  if left = [] then ['/'] else left

/-- The path of a URI has segments, none of which is dots: those that are left, or an empty one. -/
theorem exists_normalPath {path : Text} (starts : ∀ c ∈ path.head?, c = '/') :
    ∃ segments left, path = slashed segments ∧ normalPath path = slashed left ∧ left ≠ [] ∧
      ∀ segment ∈ left, '/' ∉ segment ∧ isDotted segment = false ∧
        (segment = [] ∨ segment ∈ segments) := by
  -- An empty path becomes a slash, and any other one has segments that are left.
  cases path with
  | nil =>
    have empty : normalPath [] = slashed [[]] := by
      rw [normalPath, removeDotSegments, resolveDots]
      rfl
    refine ⟨[], [[]], rfl, empty, by simp, fun segment inside => ?_⟩
    rw [List.mem_singleton.mp inside]
    exact ⟨List.not_mem_nil, rfl, .inl rfl⟩
  | cons c rest =>
    -- The path of the segments that are left is not empty, so it is not replaced.
    have slash : (c :: rest).head? = some '/' := congrArg some (starts c rfl)
    obtain ⟨segments, left, whole, removed, nonempty, members⟩ := exists_removeDotSegments slash
    refine ⟨segments, left, whole, ?_, nonempty, members⟩
    have some' : slashed left ≠ [] := by
      obtain ⟨segment, more, rfl⟩ := List.exists_cons_of_ne_nil nonempty
      exact List.cons_ne_nil _ _
    rw [normalPath, removed, if_neg some']

/-- The path of a URI begins with a slash. -/
theorem head?_normalPath {path : Text} (starts : ∀ c ∈ path.head?, c = '/') :
    (normalPath path).head? = some '/' := by
  -- There is a segment left, with its slash in front.
  obtain ⟨_, left, _, normal, nonempty, _⟩ := exists_normalPath starts
  obtain ⟨segment, more, rfl⟩ := List.exists_cons_of_ne_nil nonempty
  rw [normal]
  rfl

/-- The path of a URI is a path of its own. -/
theorem normalPath_normalPath {path : Text} (starts : ∀ c ∈ path.head?, c = '/') :
    normalPath (normalPath path) = normalPath path := by
  -- The segments that are left are no dots, so they stay.
  obtain ⟨_, left, _, normal, nonempty, members⟩ := exists_normalPath starts
  have kept := removeDotSegments_of_not_dotted (fun segment inside => (members segment inside).1)
    fun segment inside => (members segment inside).2.1
  obtain ⟨segment, more, rfl⟩ := List.exists_cons_of_ne_nil nonempty
  rw [normal, normalPath, kept]
  exact if_neg (List.cons_ne_nil _ _)

/-- A character of a segment is in the path. -/
theorem mem_slashed_of_mem {segments : List Text} {segment : Text} {c : Char}
    (member : segment ∈ segments) (inside : c ∈ segment) : c ∈ slashed segments :=
  List.mem_flatMap.mpr ⟨segment, member, .tail _ inside⟩

/-- The path of a URI has only characters of the written path, and slashes. -/
theorem mem_of_mem_normalPath {path : Text} (starts : ∀ c ∈ path.head?, c = '/') {c : Char}
    (inside : c ∈ normalPath path) : c = '/' ∨ c ∈ path := by
  -- A segment that is left is empty, or a segment of the written path.
  obtain ⟨segments, left, rfl, normal, _, members⟩ := exists_normalPath starts
  rw [normal] at inside
  obtain ⟨segment, member, inside⟩ := List.mem_flatMap.mp inside
  rcases List.mem_cons.mp inside with slash | inside
  · exact .inl slash
  · rcases (members segment member).2.2 with rfl | written
    · cases inside
    · exact .inr (mem_slashed_of_mem written inside)

/-- The path of a URI is canonical when the written path is. -/
theorem canonical_normalPath {path : Text} (starts : ∀ c ∈ path.head?, c = '/')
    (canonical : canonicalEscapes? path = some path) :
    canonicalEscapes? (normalPath path) = some (normalPath path) := by
  -- Each segment that is left is one of the written path, or empty.
  obtain ⟨segments, left, rfl, normal, _, members⟩ := exists_normalPath starts
  rw [normal]
  refine canonical_slashed_iff.mpr fun segment inside => ?_
  rcases (members segment inside).2.2 with rfl | written
  · rfl
  · exact canonical_slashed_iff.mp canonical segment written

end RelyingParty.Uri
