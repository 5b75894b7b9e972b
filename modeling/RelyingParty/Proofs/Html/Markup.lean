import Mathlib.Data.List.Infix
import RelyingParty.Proofs.Html.Scan

/-! Every reported tag stands in a part of the page. Its markup is that part without what is hidden
in it, so that a tag may be put together of what stands around a comment. -/

namespace RelyingParty.Html

/-- Whether a reader takes a start off a text, and takes the same one off every text with that
start. -/
structure IsReader (read : Text → Option Text) : Prop where
  -- Something is read, or the reader might wait for a text behind the end of another one.
  reads : ∀ {text rest : Text}, read text = some rest → ∃ front, front ≠ [] ∧ text = front ++ rest
  keeps : ∀ {text rest more : Text}, read (text ++ more) = some (rest ++ more) →
    read text = some rest

/-- Nothing is left of a text and all of the text again when something is read off it. -/
theorem ne_append_of_read {front : Text} (some_front : front ≠ []) (rest more : Text) :
    more ≠ front ++ (rest ++ more) := by
  intro whole
  -- Both sides would have to be of one length.
  have lengths := congrArg List.length whole
  have positive := List.length_pos_iff.mpr some_front
  simp only [List.length_append] at lengths
  omega

/-- One reader behind another is a reader. -/
theorem IsReader.bind {read next : Text → Option Text} (first : IsReader read)
    (second : IsReader next) : IsReader fun text => (read text).bind next := by
  constructor
  · intro text rest found
    obtain ⟨middle, opened, closed⟩ := Option.bind_eq_some_iff.mp found
    obtain ⟨front, some_front, rfl⟩ := first.reads opened
    obtain ⟨back, _, rfl⟩ := second.reads closed
    exact ⟨front ++ back, by simp [some_front], by simp⟩
  · intro text rest more found
    obtain ⟨middle, opened, closed⟩ := Option.bind_eq_some_iff.mp found
    -- What the second reader is given ends with all that follows the text.
    obtain ⟨back, _, rfl⟩ := second.reads closed
    rw [← List.append_assoc] at opened closed
    exact Option.bind_eq_some_iff.mpr ⟨back ++ rest, first.keeps opened, second.keeps closed⟩

/-- A start that is not empty is read off. -/
theorem isReader_dropFolded? {start : Text} (some_start : start ≠ []) :
    IsReader (dropFolded? start) := by
  -- The start is what is read, and it is spelled by the same characters in every text.
  constructor
  · intro text rest found
    obtain ⟨front, spells, rfl⟩ := dropFolded?_eq_some_iff.mp found
    refine ⟨front, ?_, rfl⟩
    rintro rfl
    cases spells
    exact some_start rfl
  · intro text rest more found
    obtain ⟨front, spells, whole⟩ := dropFolded?_eq_some_iff.mp found
    rw [← List.append_assoc] at whole
    exact dropFolded?_eq_some_iff.mpr ⟨front, spells, List.append_cancel_right whole⟩

/-- All up to a needle that is not empty is read off. -/
theorem isReader_afterFolded? {needle : Text} (some_needle : needle ≠ []) :
    IsReader (afterFolded? needle) := by
  have start := isReader_dropFolded? some_needle
  have reads : ∀ {text rest : Text}, afterFolded? needle text = some rest →
      ∃ front, front ≠ [] ∧ text = front ++ rest := by
    intro text rest found
    fun_induction afterFolded? needle text with
    | case1 => cases found
    | case2 c tail after dropped =>
      cases found
      exact start.reads dropped
    | case3 c tail missing ih =>
      obtain ⟨front, _, rfl⟩ := ih found
      exact ⟨c :: front, List.cons_ne_nil c front, rfl⟩
  -- By induction on the text of its own: the needle begins here, or further back.
  refine ⟨reads, fun {text rest more} found => ?_⟩
  induction text with
  | nil =>
    -- Without a text of its own the needle would stand in what follows.
    obtain ⟨front, some_front, whole⟩ := reads found
    exact absurd whole (ne_append_of_read some_front rest more)
  | cons c tail ih =>
    rw [List.cons_append, afterFolded?] at found
    cases dropped : dropFolded? needle (c :: (tail ++ more)) with
    | some after =>
      rw [dropped] at found
      cases found
      have own : dropFolded? needle (c :: tail) = some rest := start.keeps dropped
      rw [afterFolded?, own]
    | none =>
      rw [dropped] at found
      -- A start of the text would be one with whatever follows.
      have missing : dropFolded? needle (c :: tail) = none := by
        refine Option.eq_none_iff_forall_ne_some.mpr fun after own => ?_
        have longer := dropFolded?_append own more
        rw [List.cons_append, dropped] at longer
        cases longer
      rw [afterFolded?, missing]
      exact ih found

/-- A script element is read off behind its name. -/
theorem isReader_afterScript? : IsReader afterScript? := by
  have body : IsReader (afterFolded? "</script>") := isReader_afterFolded? (by decide)
  have opening : IsReader (afterFolded? ">") := isReader_afterFolded? (by decide)
  have element := opening.bind body
  have reads : ∀ {text rest : Text}, afterScript? text = some rest →
      ∃ front, front ≠ [] ∧ text = front ++ rest := by
    intro text rest found
    unfold afterScript? at found
    split at found
    · cases found
    · obtain ⟨front, _, rfl⟩ := body.reads found
      exact ⟨'>' :: front, List.cons_ne_nil _ _, rfl⟩
    · rename_i c tail _
      split at found
      · cases found
      · -- Behind the name the rest of the opening tag is read, and then the body.
        obtain ⟨front, _, rfl⟩ := element.reads found
        exact ⟨c :: front, List.cons_ne_nil _ _, rfl⟩
  refine ⟨reads, fun {text rest more} found => ?_⟩
  cases text with
  | nil =>
    obtain ⟨front, some_front, whole⟩ := reads found
    exact absurd whole (ne_append_of_read some_front rest more)
  | cons c tail =>
    by_cases bracket : c = '>'
    · -- The opening tag ends at once, so the body follows.
      subst bracket
      exact body.keeps found
    by_cases apart : (Text.isWordChar c || c = ':') = false
    · rw [List.cons_append, afterScript?_cons bracket apart] at found
      rw [afterScript?_cons bracket apart]
      exact element.keeps found
    · -- The name of another element goes on, so nothing is read.
      unfold afterScript? at found
      split at found
      · cases found
      · rename_i same
        exact absurd (List.cons.inj same).1 bracket
      · rename_i same
        obtain ⟨rfl, rfl⟩ := List.cons.inj same
        rw [if_pos (eq_true_of_ne_false apart)] at found
        cases found

/-- Whatever is hidden is read off. -/
theorem isReader_afterHidden? : IsReader afterHidden? := by
  have start : ∀ start : Text, start ≠ [] → IsReader (dropFolded? start) :=
    fun _ => isReader_dropFolded?
  have needle : ∀ needle : Text, needle ≠ [] → IsReader (afterFolded? needle) :=
    fun _ => isReader_afterFolded?
  -- Each kind of hidden markup is a fixed start, and what reads on behind it.
  have comment := (start "<!--" (by decide)).bind (needle "-->" (by decide))
  have cdata := (start "<![cdata[" (by decide)).bind (needle "]]>" (by decide))
  have script := (start "<script" (by decide)).bind isReader_afterScript?
  constructor
  · intro text rest found
    rcases afterHidden?_eq_some_iff.mp found with opened | opened | opened
    · exact comment.reads opened
    · exact cdata.reads opened
    · exact script.reads opened
  · -- Which kind it is does not change with more behind it.
    intro text rest more found
    refine afterHidden?_eq_some_iff.mpr ?_
    rcases afterHidden?_eq_some_iff.mp found with opened | opened | opened
    · exact .inl (comment.keeps opened)
    · exact .inr (.inl (cdata.keeps opened))
    · exact .inr (.inr (script.keeps opened))

/-- Where nothing is hidden at the start of a text, nothing is at that of a shorter one. -/
theorem kept_of_append {text more : Text} (kept : afterHidden? (text ++ more) = none) :
    afterHidden? text = none := by
  -- What is hidden in the shorter text would be hidden in the longer one.
  refine Option.eq_none_iff_forall_ne_some.mpr fun rest hidden => ?_
  rw [afterHidden?_append hidden] at kept
  cases kept

/-- A character of a stripped page stands in the page, and what is in front of it and behind it
there is stripped to what is in front of it and behind it. -/
theorem exists_of_strip_eq_append {page front back : Text} {c : Char}
    (stripped : strip page = front ++ c :: back) :
    ∃ before after, page = before ++ c :: after ∧ strip before = front ∧ strip after = back := by
  fun_induction strip page generalizing front with
  | case1 => simp at stripped
  | case2 d tail after hidden ih =>
    -- What is hidden goes to what is in front of the character.
    obtain ⟨before, behind, rfl, same, left⟩ := ih stripped
    obtain ⟨piece, _, whole⟩ := isReader_afterHidden?.reads hidden
    rw [whole, ← List.append_assoc] at hidden
    refine ⟨piece ++ before, behind, ?_, ?_, left⟩
    · rw [whole, List.append_assoc]
    · rw [strip_of_hidden (isReader_afterHidden?.keeps hidden), same]
  -- A kept character is the one, or stands in front of it.
  | case3 d tail kept ih =>
    cases front with
    | nil =>
      obtain ⟨rfl, rfl⟩ := List.cons.inj stripped
      exact ⟨[], tail, rfl, by rw [strip], rfl⟩
    | cons e front =>
      obtain ⟨rfl, later⟩ := List.cons.inj stripped
      obtain ⟨before, behind, rfl, same, left⟩ := ih later
      refine ⟨d :: before, behind, rfl, ?_, left⟩
      rw [← List.cons_append] at kept
      rw [strip_of_kept (kept_of_append kept), same]

/-- Whether a text is one comment, CDATA section or script element, and nothing else. -/
def IsHidden (text : Text) : Prop := afterHidden? text = some []

/-- A text stays as it is when it is stripped, unless something hidden stands in it. -/
theorem strip_eq_or_exists_hidden (text : Text) :
    strip text = text ∨ ∃ hidden, hidden <:+: text ∧ IsHidden hidden := by
  fun_induction strip text with
  | case1 => exact .inl rfl
  | case2 c tail after hidden ih =>
    obtain ⟨piece, _, whole⟩ := isReader_afterHidden?.reads hidden
    -- Nothing is left of what is hidden, as all behind it is left.
    have own : afterHidden? (piece ++ after) = some ([] ++ after) := whole ▸ hidden
    exact .inr ⟨piece, ⟨[], after, by simp [whole]⟩, isReader_afterHidden?.keeps own⟩
  | case3 c tail kept ih =>
    rcases ih with same | ⟨hidden, inside, whole⟩
    · exact .inl (by rw [same])
    · exact .inr ⟨hidden, List.infix_cons inside, whole⟩

/-- A reported tag is read between its brackets, and the scan goes on behind them. -/
theorem exists_of_tags_steps {text : Text} {front back : List Tag} {tag : Tag}
    (reported : tags (steps text) = front ++ tag :: back) :
    ∃ body rest, ('<' :: (body ++ '>' :: rest)) <:+ text ∧
      Tag.read? (body ++ '>' :: rest) = some (tag, rest) ∧ tags (steps rest) = back := by
  -- Every step of the scan goes on with a suffix of the text.
  fun_induction steps text generalizing front with
  | case1 => cases front <;> cases reported
  | case2 text c rest start opens found behind read ih =>
    have suffix : c :: rest <:+ text := start ▸ List.dropWhile_suffix _
    obtain ⟨body, rfl⟩ := Tag.exists_of_read? read
    cases front with
    | nil =>
      obtain ⟨rfl, rfl⟩ := List.cons.inj reported
      -- What was dropped ends in front of the first bracket.
      have bracket : c = '<' := by
        have stops := List.head?_dropWhile_not (· ≠ '<') text
        rw [start] at stops
        simpa using stops
      subst bracket
      exact ⟨body, behind, suffix, read, rfl⟩
    | cons first front =>
      obtain ⟨inner, rest, inside, again, left⟩ := ih (List.cons.inj reported).2
      have tail : behind <:+ c :: (body ++ '>' :: behind) :=
        ⟨c :: (body ++ ['>']), by simp⟩
      exact ⟨inner, rest, inside.trans (tail.trans suffix), again, left⟩
  | case3 => cases front <;> cases reported
  -- A declaration is passed over up to its end.
  | case4 text c rest start other declares before behind closed ih =>
    have suffix : c :: rest <:+ text := start ▸ List.dropWhile_suffix _
    obtain ⟨body, left, inside, read, later⟩ := ih reported
    obtain ⟨rfl, _⟩ := Text.splitFirst_eq_some_iff.mp closed
    have tail : behind <:+ c :: (before ++ '>' :: behind) := ⟨c :: (before ++ ['>']), by simp⟩
    exact ⟨body, left, inside.trans (tail.trans suffix), read, later⟩
  | case5 text c rest start other declares closed ih =>
    have suffix : c :: rest <:+ text := start ▸ List.dropWhile_suffix _
    obtain ⟨body, left, inside, read, later⟩ := ih reported
    exact ⟨body, left, inside.trans ((List.suffix_cons c rest).trans suffix), read, later⟩
  -- A bracket that begins neither is passed over alone.
  | case6 text c rest start other plain ih =>
    have suffix : c :: rest <:+ text := start ▸ List.dropWhile_suffix _
    obtain ⟨body, left, inside, read, later⟩ := ih reported
    exact ⟨body, left, inside.trans ((List.suffix_cons c rest).trans suffix), read, later⟩

/-- A place of a page where a tag is read: between two brackets of the page, of which neither is
hidden. -/
structure Occurrence (page : Text) (tag : Tag) where
  before : Text
  inside : Text
  after : Text
  whole : page = before ++ '<' :: (inside ++ '>' :: after)
  stripped : strip page = strip before ++ '<' :: (strip inside ++ '>' :: strip after)
  read : Tag.read? (strip inside ++ '>' :: strip after) = some (tag, strip after)

namespace Occurrence

variable {page : Text} {tag : Tag}

/-- The part of the page from the opening bracket to the closing one. -/
def part (found : Occurrence page tag) : Text := '<' :: (found.inside ++ ['>'])

/-- The markup of the tag, as it is scanned. -/
def markup (found : Occurrence page tag) : Text := '<' :: (strip found.inside ++ ['>'])

/-- The markup by itself is read as the tag. -/
theorem read_markup (found : Occurrence page tag) :
    Tag.read? (strip found.inside ++ ['>']) = some (tag, []) := by
  have read : Tag.read? ((strip found.inside ++ ['>']) ++ strip found.after) =
      some (tag, strip found.after) := by
    simpa using found.read
  obtain ⟨kept, left, own⟩ := Tag.exists_read?_of_append read (Nat.le_refl _)
  -- Nothing is left of the markup, as all that follows it is left.
  obtain rfl : kept = [] := List.append_left_eq_self.mp left.symm
  exact own

end Occurrence

/-- Every reported tag stands in the page: its markup is what a part of the page from its opening
bracket to its closing one leaves when it is stripped, and the part itself unless a whole comment,
CDATA section or script element stands in between. The tags that are reported later are those of
what stands behind that part. -/
theorem reported_tag_occurs {page : Text} {front back : List Tag} {tag : Tag}
    (reported : tags (scan page) = front ++ tag :: back) :
    ∃ found : Occurrence page tag, found.part <:+: page ∧ tags (scan found.after) = back ∧
      (found.markup = found.part ∨ ∃ hidden, hidden <:+: found.inside ∧ IsHidden hidden) := by
  obtain ⟨body, rest, ⟨skipped, stripped⟩, read, later⟩ := exists_of_tags_steps reported
  -- Both brackets of the stripped page stand in the page.
  obtain ⟨before, opened, rfl, rfl, same⟩ := exists_of_strip_eq_append stripped.symm
  obtain ⟨inside, after, rfl, rfl, rfl⟩ := exists_of_strip_eq_append same
  refine ⟨⟨before, inside, after, rfl, stripped.symm, read⟩, ?_, later, ?_⟩
  · exact ⟨before, after, by simp [Occurrence.part]⟩
  · exact (strip_eq_or_exists_hidden inside).imp_left
      (congrArg fun body => '<' :: (body ++ ['>']))

/-- A link with a comment in its name is reported, behind the paragraph in front of it. -/
theorem reported_tag_occurs_commented :
    tags (scan "<p><lin<!-- > -->k rel=\"a\">".toList) =
        [⟨"p".toList, [], false⟩] ++ ⟨"link".toList, [("rel".toList, "a".toList)], false⟩ :: [] ∧
      ∃ found : Occurrence "<p><lin<!-- > -->k rel=\"a\">".toList
          ⟨"link".toList, [("rel".toList, "a".toList)], false⟩,
        found.part <:+: "<p><lin<!-- > -->k rel=\"a\">".toList ∧
          tags (scan found.after) = [] ∧
          (found.markup = found.part ∨ ∃ hidden, hidden <:+: found.inside ∧ IsHidden hidden) := by
  -- The scan is evaluated, and the rest is the general statement.
  have reported : tags (scan "<p><lin<!-- > -->k rel=\"a\">".toList) =
      [⟨"p".toList, [], false⟩] ++ ⟨"link".toList, [("rel".toList, "a".toList)], false⟩ :: [] := by
    decide +kernel
  exact ⟨reported, reported_tag_occurs reported⟩

/-- The markup of a reported tag need not stand in the page: a comment is taken out of a name, and
what stands on both sides of it is read as one tag. -/
theorem assembled_tag :
    ¬∀ (page : Text) (tag : Tag), tag ∈ tags (scan page) →
      ∃ found : Occurrence page tag, found.markup <:+: page := by
  intro always
  obtain ⟨found, inside⟩ := always "<lin<!---->k>".toList ⟨"link".toList, [], false⟩
    (by decide +kernel)
  have read := found.read_markup
  -- No part of the page is read as the tag.
  have unread : ∀ start ∈ "<lin<!---->k>".toList.tails, ∀ part ∈ start.inits,
      Tag.read? part.tail ≠ some (⟨"link".toList, [], false⟩, []) := by
    decide +kernel
  obtain ⟨start, front, back⟩ := List.infix_iff_prefix_suffix.mp inside
  exact unread start ((List.mem_tails _ _).mpr back) found.markup
    ((List.mem_inits _ _).mpr front) read

end RelyingParty.Html
