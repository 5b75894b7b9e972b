import Mathlib.Data.List.Basic
import RelyingParty.Text

/-! Where a text is cut, and what stands on both sides of the cut. -/

namespace RelyingParty.Text

/-- A start is dropped exactly when the text is the start and what is left. -/
theorem dropStart?_eq_some_iff {start text rest : Text} :
    dropStart? start text = some rest ↔ text = start ++ rest := by
  -- The start is compared character by character.
  fun_induction dropStart? start text with
  | case1 => simp [eq_comm]
  | case2 => simp
  | case3 start s text ih => simp [ih]
  | case4 s start c text differs => simp [Ne.symm differs]

/-- A text has no first mark when it has none at all. -/
theorem splitFirst_eq_none_iff {mark : Char} {text : Text} :
    splitFirst mark text = none ↔ mark ∉ text := by
  -- Every character but the mark is passed over.
  induction text with
  | nil => simp [splitFirst]
  | cons c rest ih =>
    by_cases same : c = mark
    · simp [splitFirst, same]
    · simp [splitFirst, same, ih, Ne.symm same]

/-- What has no mark stays before the first one. -/
theorem splitFirst_append {mark : Char} {front : Text} (absent : mark ∉ front) (text : Text) :
    splitFirst mark (front ++ text) =
      (splitFirst mark text).map fun parts => (front ++ parts.1, parts.2) := by
  induction front with
  | nil => simp
  | cons c front ih =>
    -- The first character is no mark, and neither is one behind it.
    have differs := Ne.symm (List.ne_of_not_mem_cons absent)
    simp [splitFirst, differs, ih (List.not_mem_of_not_mem_cons absent), Function.comp_def]

/-- A text is cut at the mark that no other precedes. -/
theorem splitFirst_eq_some_iff {mark : Char} {text before after : Text} :
    splitFirst mark text = some (before, after) ↔
      text = before ++ mark :: after ∧ mark ∉ before := by
  constructor
  · -- The part before the mark grows by every character that is passed over.
    intro found
    fun_induction splitFirst mark text generalizing before with
    | case1 => cases found
    | case2 =>
      cases found
      exact ⟨rfl, List.not_mem_nil⟩
    | case3 c rest differs ih =>
      obtain ⟨⟨head, tail⟩, split, same⟩ := Option.map_eq_some_iff.mp found
      cases same
      obtain ⟨rfl, absent⟩ := ih split
      exact ⟨rfl, List.not_mem_cons_of_ne_of_not_mem (Ne.symm differs) absent⟩
  · rintro ⟨rfl, absent⟩
    simp [splitFirst_append absent, splitFirst]

/-- A text that has the mark is cut. -/
theorem exists_splitFirst_of_mem {mark : Char} {text : Text} (inside : mark ∈ text) :
    ∃ before after, splitFirst mark text = some (before, after) := by
  obtain ⟨before, after, whole, absent⟩ := List.eq_append_cons_of_mem inside
  exact ⟨before, after, splitFirst_eq_some_iff.mpr ⟨whole, absent⟩⟩

/-- A run of characters ends where the text behind it begins. -/
theorem span_append {p : Char → Bool} {front rest : Text} (all : ∀ c ∈ front, p c = true)
    (stops : ∀ c ∈ rest.head?, p c = false) :
    (front ++ rest).takeWhile p = front ∧ (front ++ rest).dropWhile p = rest := by
  rw [List.takeWhile_append_of_pos all, List.dropWhile_append_of_pos all]
  -- What is left of both is decided by the first character behind the run.
  cases rest with
  | nil => simp
  | cons c rest => simp [stops c rfl]

/-- What a mark stops to be dropped from is dropped from in the same way, whatever follows it. -/
theorem dropWhile_append_of_mem {p : Char → Bool} {mark : Char} (stops : p mark = false)
    {text : Text} (inside : mark ∈ text) (more : Text) :
    (text ++ more).dropWhile p = text.dropWhile p ++ more := by
  induction text with
  | nil => cases inside
  | cons c rest ih =>
    cases dropped : p c with
    | false => simp [dropped]
    | true =>
      -- The first character is dropped, so it is not the mark.
      have later : mark ∈ rest := by
        rcases List.mem_cons.mp inside with rfl | later
        · simp [stops] at dropped
        · exact later
      simpa [dropped] using ih later

/-- What is left behind dropped characters is left of a longer text too. -/
theorem dropWhile_append_of_eq_cons {p : Char → Bool} {c : Char} {text rest : Text}
    (start : text.dropWhile p = c :: rest) (more : Text) :
    (text ++ more).dropWhile p = c :: (rest ++ more) := by
  -- A character is left of the text, so dropping stops inside it.
  rw [List.dropWhile_append, start]
  rfl

/-- What is taken before a mark that stops it is the same, whatever follows. -/
theorem takeWhile_append_of_mem {p : Char → Bool} {mark : Char} (stops : p mark = false)
    {text : Text} (inside : mark ∈ text) (more : Text) :
    (text ++ more).takeWhile p = text.takeWhile p := by
  -- Both parts together are the text, and the part behind is known.
  have whole : (text ++ more).takeWhile p ++ (text ++ more).dropWhile p =
      text.takeWhile p ++ (text.dropWhile p ++ more) := by
    rw [List.takeWhile_append_dropWhile, ← List.append_assoc, List.takeWhile_append_dropWhile]
  rw [dropWhile_append_of_mem stops inside] at whole
  exact List.append_cancel_right whole

/-- What is taken of a text goes on into what follows, or it does not. -/
theorem takeWhile_append_or (p : Char → Bool) (front back : Text) :
    (front ++ back).takeWhile p = front.takeWhile p ∨
      (front ++ back).takeWhile p = front.takeWhile p ++ back.takeWhile p := by
  -- Only when the whole front is taken does it go on behind it.
  rw [List.takeWhile_append]
  split
  · rename_i whole
    rw [(List.takeWhile_prefix p).eq_of_length whole]
    exact .inr rfl
  · exact .inl rfl

/-- A mark that is not dropped is still there behind what is. -/
theorem mem_dropWhile_of_mem {p : Char → Bool} {mark : Char} (stops : p mark = false)
    {text : Text} (inside : mark ∈ text) : mark ∈ text.dropWhile p := by
  -- The mark is taken or left, and no character that is taken is the mark.
  rw [← List.takeWhile_append_dropWhile (p := p) (l := text)] at inside
  rcases List.mem_append.mp inside with taken | left
  · have := List.all_eq_true.mp List.all_takeWhile mark taken
    simp [stops] at this
  · exact left

/-- The first mark of a text is the first one, whatever follows the text. -/
theorem splitFirst_append_of_eq_some {mark : Char} {text before after : Text}
    (found : splitFirst mark text = some (before, after)) (more : Text) :
    splitFirst mark (text ++ more) = some (before, after ++ more) := by
  -- What follows the text is behind its first mark.
  obtain ⟨rfl, absent⟩ := splitFirst_eq_some_iff.mp found
  exact splitFirst_eq_some_iff.mpr ⟨by simp, absent⟩

/-- A first mark in front of all that follows a text is one of the text. -/
theorem exists_splitFirst_of_append {mark : Char} {text more before after : Text}
    (found : splitFirst mark (text ++ more) = some (before, after))
    (front : more.length ≤ after.length) :
    ∃ kept, after = kept ++ more ∧ splitFirst mark text = some (before, kept) := by
  cases own : splitFirst mark text with
  | some parts =>
    rw [splitFirst_append_of_eq_some own] at found
    cases found
    exact ⟨parts.2, rfl, rfl⟩
  | none =>
    -- Without a mark of its own, the one that was found stands in what follows.
    rw [splitFirst_append (splitFirst_eq_none_iff.mp own)] at found
    obtain ⟨⟨head, tail⟩, split, same⟩ := Option.map_eq_some_iff.mp found
    cases same
    have shorter := splitFirst_length split
    dsimp only at front
    omega

/-- A part behind its mark, when there is one. -/
def marked (mark : Char) : Option Text → Text
  | some part => mark :: part
  | none => []

/-- The part is known from what is marked. -/
theorem marked_inj {mark : Char} {part part' : Option Text}
    (same : marked mark part = marked mark part') : part = part' := by
  -- A part that is there begins with the mark, and no part is written as nothing.
  cases part with
  | none =>
    cases part' with
    | none => rfl
    | some part' => cases same
  | some part =>
    cases part' with
    | none => cases same
    | some part' => exact congrArg some (List.cons.inj same).2

/-- A text is cut into a head without the mark and what the first mark stands before. -/
theorem cutTail_eq_iff {mark : Char} {text head : Text} {tail : Option Text} :
    cutTail mark text = (head, tail) ↔ text = head ++ marked mark tail ∧ mark ∉ head := by
  unfold cutTail
  constructor
  · -- Without a mark the head is all of the text.
    intro cut
    cases split : splitFirst mark text with
    | none =>
      simp only [split] at cut
      cases cut
      exact ⟨by simp [marked], splitFirst_eq_none_iff.mp split⟩
    | some parts =>
      simp only [split] at cut
      cases cut
      exact splitFirst_eq_some_iff.mp split
  · rintro ⟨rfl, absent⟩
    -- Conversely the first mark is the one behind the head, which has none.
    cases tail with
    | none => simp [marked, splitFirst_eq_none_iff.mpr absent]
    | some tail =>
      have split : splitFirst mark (head ++ mark :: tail) = some (head, tail) :=
        splitFirst_eq_some_iff.mpr ⟨rfl, absent⟩
      simp [marked, split]

/-- The head is what stands before the first mark. -/
theorem cutTail_fst (mark : Char) (text : Text) :
    (cutTail mark text).1 = text.takeWhile (· ≠ mark) := by
  cases cut : cutTail mark text with
  | mk head tail =>
    obtain ⟨rfl, absent⟩ := cutTail_eq_iff.mp cut
    refine (span_append ?_ ?_).1.symm
    · intro c inside
      simpa using ne_of_mem_of_not_mem inside absent
    · -- What stands behind the head begins with the mark.
      cases tail with
      | none => simp [marked]
      | some tail => simp [marked]

/-- Every text has a head without the mark. -/
theorem exists_marked (mark : Char) (text : Text) :
    ∃ head tail, text = head ++ marked mark tail ∧ mark ∉ head :=
  ⟨(cutTail mark text).1, (cutTail mark text).2, cutTail_eq_iff.mp rfl⟩

/-- What has no mark stays in the head that the mark ends. -/
theorem cutTail_append {mark : Char} {front : Text} (absent : mark ∉ front) (text : Text) :
    cutTail mark (front ++ text) = (front ++ (cutTail mark text).1, (cutTail mark text).2) := by
  -- With a mark behind the front or without one, the front is passed over.
  unfold cutTail
  rw [splitFirst_append absent]
  cases splitFirst mark text with
  | none => rfl
  | some parts => rfl

/-- The first occurrence of a needle stands between both parts. -/
theorem eq_append_of_splitAt? {needle text before after : Text}
    (found : splitAt? needle text = some (before, after)) : text = before ++ needle ++ after := by
  -- The part before it grows by every character where the needle does not begin.
  fun_induction splitAt? needle text generalizing before with
  | case1 => simp_all
  | case2 => simp at found
  | case3 c rest tail dropped =>
    cases found
    exact dropStart?_eq_some_iff.mp dropped
  | case4 c rest _ ih =>
    obtain ⟨⟨head, tail⟩, split, same⟩ := Option.map_eq_some_iff.mp found
    cases same
    simp [ih split]

/-- An occurrence of a needle is the first one or one behind it. -/
theorem exists_splitAt?_append (front needle back : Text) :
    ∃ before after, splitAt? needle (front ++ needle ++ back) = some (before, after) ∧
      before.length ≤ front.length := by
  -- The search stops at the given occurrence at the latest.
  induction front with
  | nil =>
    cases whole : [] ++ needle ++ back with
    | nil => exact ⟨[], [], by simp_all [splitAt?], Nat.le_refl _⟩
    | cons c rest =>
      have dropped : dropStart? needle (c :: rest) = some back :=
        dropStart?_eq_some_iff.mpr (by simpa using whole.symm)
      exact ⟨[], back, by simp [splitAt?, dropped], Nat.le_refl _⟩
  | cons c front ih =>
    obtain ⟨before, after, found, shorter⟩ := ih
    cases dropped : dropStart? needle (c :: (front ++ needle ++ back)) with
    | some rest => exact ⟨[], rest, by simp_all [splitAt?], Nat.zero_le _⟩
    | none => exact ⟨c :: before, after, by simp_all [splitAt?], Nat.succ_le_succ shorter⟩

/-- A needle is included when it stands anywhere in the text. -/
theorem includes_eq_true_iff {needle text : Text} :
    includes needle text = true ↔ needle <:+: text := by
  -- Where the needle is found, the text is what stands around it.
  constructor
  · intro found
    obtain ⟨⟨before, after⟩, split⟩ := Option.isSome_iff_exists.mp found
    exact ⟨before, after, (eq_append_of_splitAt? split).symm⟩
  · rintro ⟨front, back, rfl⟩
    obtain ⟨before, after, split, _⟩ := exists_splitAt?_append front needle back
    exact Option.isSome_iff_exists.mpr ⟨_, split⟩

/-- A text has no last mark when it has none at all. -/
theorem splitLast_eq_none_iff {mark : Char} {text : Text} :
    splitLast mark text = none ↔ mark ∉ text := by
  induction text with
  | nil => simp [splitLast]
  | cons c rest ih =>
    cases split : splitLast mark rest with
    | some parts =>
      -- A mark that is found behind the first character is one of the text.
      have member : mark ∈ rest := not_not.mp fun absent => by simp [ih.mpr absent] at split
      simp [splitLast, split, member]
    | none => simp [splitLast, split, ih.mp split, eq_comm]

/-- A mark that no other follows is the last one. -/
theorem splitLast_append {mark : Char} {after : Text} (absent : mark ∉ after) (before : Text) :
    splitLast mark (before ++ mark :: after) = some (before, after) := by
  -- Whatever stands before the mark, the one behind it is found first.
  induction before with
  | nil => simp [splitLast, splitLast_eq_none_iff.mpr absent]
  | cons c rest ih => simp [splitLast, ih]

/-- A text is cut at the mark that no other follows. -/
theorem splitLast_eq_some_iff {mark : Char} {text before after : Text} :
    splitLast mark text = some (before, after) ↔
      text = before ++ mark :: after ∧ mark ∉ after := by
  constructor
  · -- The rest of the text is cut first; its own first character is the mark only without a cut.
    intro found
    induction text generalizing before with
    | nil => simp [splitLast] at found
    | cons c rest ih =>
      cases split : splitLast mark rest with
      | some parts =>
        simp only [splitLast, split, Option.some.injEq, Prod.mk.injEq] at found
        obtain ⟨rfl, rfl⟩ := found
        obtain ⟨same, absent⟩ := ih split
        exact ⟨by simp [← same], absent⟩
      | none =>
        simp only [splitLast, split, Option.ite_none_right_eq_some, Option.some.injEq,
          Prod.mk.injEq] at found
        obtain ⟨rfl, rfl, rfl⟩ := found
        exact ⟨rfl, splitLast_eq_none_iff.mp split⟩
  -- What follows has no mark, so this one is the last.
  · rintro ⟨rfl, absent⟩
    exact splitLast_append absent before

/-- A mark that the front does not have is the last one of what follows it. -/
theorem splitLast_append_of_notMem {mark : Char} {front : Text} (absent : mark ∉ front)
    (text : Text) :
    splitLast mark (front ++ text) =
      (splitLast mark text).map fun parts => (front ++ parts.1, parts.2) := by
  -- Front and text have no mark together, or the last one of the text stays the last.
  cases split : splitLast mark text with
  | none =>
    have missing := splitLast_eq_none_iff.mp split
    exact splitLast_eq_none_iff.mpr (List.not_mem_append absent missing)
  | some parts =>
    obtain ⟨rfl, last⟩ := splitLast_eq_some_iff.mp split
    rw [← List.append_assoc, splitLast_append last]
    rfl

/-- What is read as a number consists of digits. -/
theorem isSome_digitValue?_of_digitsFrom? {base value number : Nat} {text : Text}
    (read : digitsFrom? base value text = some number) :
    ∀ c ∈ text, (digitValue? base c).isSome = true := by
  -- The first character that is no digit refuses the whole text.
  fun_induction digitsFrom? base value text with
  | case1 => simp
  | case2 value c rest digit found ih =>
    intro d inside
    rcases List.mem_cons.mp inside with rfl | later
    · simp [found]
    · exact ih read d later
  | case3 => cases read

/-- A bounded number consists of digits and plus signs. -/
theorem digit_or_plus_of_natBelow? {bound number : Nat} {text : Text}
    (read : natBelow? bound text = some number) :
    ∀ c ∈ text, c = '+' ∨ (digitValue? 10 c).isSome = true := by
  have whole : ∀ {text : Text} {n : Nat}, digits? 10 text = some n →
      ∀ c ∈ text, (digitValue? 10 c).isSome = true := by
    intro text n read
    cases text with
    | nil => simp
    | cons c rest => exact isSome_digitValue?_of_digitsFrom? read
  -- One plus sign in front is passed over, and what is left are digits.
  unfold natBelow? at read
  obtain ⟨read, _⟩ := Option.filter_eq_some_iff.mp read
  split at read
  · intro c inside
    rcases List.mem_cons.mp inside with rfl | later
    · exact .inl rfl
    · exact .inr (whole read c later)
  · exact fun c inside => .inr (whole read c inside)

/-- Without a plus sign in front a bounded number consists of digits alone. -/
theorem natBelow?_of_no_plus {text : Text} (other : text.head? ≠ some '+') (bound : Nat) :
    natBelow? bound text = (digits? 10 text).filter (· < bound) := by
  -- Only a plus sign in front is passed over.
  unfold natBelow?
  split
  · exact absurd rfl other
  · rfl

end RelyingParty.Text
