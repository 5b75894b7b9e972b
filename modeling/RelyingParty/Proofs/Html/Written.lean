import RelyingParty.Proofs.Html.Scan
import RelyingParty.Proofs.Html.WrittenTag

/-! A page that is written piece by piece is scanned for the tags that were written, and for nothing
that was written into a comment, a CDATA section or a script. -/

namespace RelyingParty.Html

/-- A script element as it is written. The text of its opening tag is what stands in front of the
first bracket, and what stands behind that is its body. -/
structure WrittenScript where
  opener : Text
  opening : Text
  body : Text
  closer : Text
  opens : Spells "<script" opener
  bare : '>' ∉ opening
  -- Otherwise the name of the tag would go on behind `script`.
  apart : ∀ c ∈ opening.head?, Text.isWordChar c = false ∧ c ≠ ':'
  unclosed : ∀ part, part <:+: body → ¬Spells "</script>" part
  closes : Spells "</script>" closer

/-- A piece of a page. -/
inductive Piece where
  | text (content : Text) (plain : '<' ∉ content)
  | comment (body : Text) (unclosed : ¬"-->".toList <:+: body)
  | cdata (body : Text) (unclosed : ¬"]]>".toList <:+: body)
  | script (element : WrittenScript)
  | tag (written : WrittenTag)

namespace Piece

/-- A piece as it is written. -/
def write : Piece → Text
  | text content _ => content
  | comment body _ => "<!--".toList ++ (body ++ "-->".toList)
  | cdata body _ => "<![CDATA[".toList ++ (body ++ "]]>".toList)
  | script element => element.opener ++ (element.opening ++ '>' :: (element.body ++ element.closer))
  | tag written => '<' :: written.content

/-- The tag that is written. -/
def tag? : Piece → Option WrittenTag
  | tag written => some written
  | _ => none

/-- What is left of a piece that is not hidden. -/
def kept : Piece → Text
  | text content _ => content
  | tag written => '<' :: written.content
  | _ => []

end Piece

/-- A page as it is written. -/
def write (page : List Piece) : Text := page.flatMap Piece.write

/-- The tags that are written into a page, in order. -/
def writtenTags (page : List Piece) : List WrittenTag := page.filterMap Piece.tag?

/-- The step that a reader who asks for some tags is given at a request; requests are counted from
zero. -/
def report (names : List Text) : Nat → List Step → Step
  | 0, scan => (next names scan).1
  | n + 1, scan => report names n (next names scan).2

/-- Marks that are no letters are spelled in one way. -/
theorem Spells.eq_of_marks {pattern text : Text} (spells : Spells pattern text)
    (plain : pattern.any Char.isAlpha = false) : text = pattern := by
  -- Mark by mark: each folds to itself alone.
  induction spells with
  | nil => rfl
  | cons folds spells ih =>
    obtain ⟨first, plain⟩ := Bool.or_eq_false_iff.mp plain
    rw [(foldsTo_mark first).mp folds, ih plain]

/-- A pattern that ends with its only bracket is spelled with a bracket at the end alone. -/
theorem Spells.exists_eq_append {start text : Text} (spells : Spells (start ++ ['>']) text)
    (once : '>' ∉ start) :
    ∃ front, text = front ++ ['>'] ∧ front.length = start.length ∧ '>' ∉ front := by
  induction start generalizing text with
  | nil =>
    have only := spells.eq_of_marks (by decide)
    exact ⟨[], only, rfl, List.not_mem_nil⟩
  | cons letter start ih =>
    cases spells with
    | cons folds spells =>
      rename_i c text
      obtain ⟨front, rfl, lengths, absent⟩ := ih spells (List.not_mem_of_not_mem_cons once)
      -- No other letter folds to a bracket.
      have other : '>' ≠ c := by
        rintro rfl
        have same : letter = '>' := by simpa [foldsTo, eq_comm] using folds
        exact once (by simp [same])
      exact ⟨c :: front, rfl, congrArg (· + 1) lengths,
        List.not_mem_cons_of_ne_of_not_mem other absent⟩

/-- A needle that a text begins with is found there. -/
theorem afterFolded?_of_dropFolded? {needle text rest : Text} (some_needle : needle ≠ [])
    (found : dropFolded? needle text = some rest) : afterFolded? needle text = some rest := by
  -- The search tries the start of the text first.
  cases text with
  | nil =>
    cases needle with
    | nil => exact absurd rfl some_needle
    | cons => cases found
  | cons c text => simp [afterFolded?, found]

/-- No text that spells a needle with its only bracket at the end begins in a body without such a
part and ends in what spells the needle behind the body, as the bracket would be in there. -/
theorem not_spells_across {start body closer part more rest : Text} (once : '>' ∉ start)
    (unclosed : ∀ part, part <:+: body → ¬Spells (start ++ ['>']) part)
    (closes : Spells (start ++ ['>']) closer) (some_body : body ≠ [])
    (whole : body ++ (closer ++ more) = part ++ rest) : ¬Spells (start ++ ['>']) part := by
  intro spells
  obtain ⟨front, rfl, lengths, absent⟩ := closes.exists_eq_append once
  obtain ⟨before, rfl, sameLengths, _⟩ := spells.exists_eq_append once
  rcases List.append_eq_append_iff.mp whole with ⟨across, ends, behind⟩ | ⟨left, ends, _⟩
  · rcases List.eq_nil_or_concat across with rfl | ⟨init, last, rfl⟩
    · -- A part that ends with the body is one of the body.
      have inside : before ++ ['>'] = body := ends.trans (List.append_nil body)
      exact unclosed _ (inside ▸ List.infix_rfl) spells
    · -- The bracket at the end of the part is in front of the only one of what follows the body.
      rw [List.concat_eq_append, ← List.append_assoc] at ends
      obtain ⟨first, bracket⟩ := List.append_inj' ends rfl
      cases bracket
      have early : init.concat '>' <+: front := by
        refine List.prefix_of_prefix_length_le ⟨rest, behind.symm⟩ ⟨'>' :: more, by simp⟩ ?_
        have some_length := List.length_pos_iff.mpr some_body
        have sum := congrArg List.length first
        simp only [List.length_append, List.length_concat] at sum ⊢
        omega
      exact absent (early.subset (by simp))
  · -- And so is one that ends before that.
    refine unclosed _ ?_ spells
    rw [ends]
    exact (List.prefix_append _ _).isInfix

/-- A needle that ends with its only bracket is found where a body ends that has no part that spells
it. -/
theorem afterFolded?_written {start body closer : Text} (once : '>' ∉ start)
    (unclosed : ∀ part, part <:+: body → ¬Spells (start ++ ['>']) part)
    (closes : Spells (start ++ ['>']) closer) (more : Text) :
    afterFolded? (start ++ ['>']) (body ++ (closer ++ more)) = some more := by
  -- By induction on the body: the needle does not begin in it, whatever stands behind.
  induction body with
  | nil =>
    exact afterFolded?_of_dropFolded? (by simp) (dropFolded?_eq_some_iff.mpr ⟨_, closes, rfl⟩)
  | cons c body ih =>
    have other : dropFolded? (start ++ ['>']) (c :: (body ++ (closer ++ more))) = none := by
      refine Option.eq_none_iff_forall_ne_some.mpr fun rest found => ?_
      obtain ⟨part, spells, whole⟩ := dropFolded?_eq_some_iff.mp found
      exact not_spells_across once unclosed closes (List.cons_ne_nil c body) whole spells
    have later : ∀ part, part <:+: body → ¬Spells (start ++ ['>']) part := fun part inside =>
      unclosed part (inside.trans (List.suffix_cons c body).isInfix)
    rw [List.cons_append, afterFolded?, other]
    exact ih later

/-- Marks are found where a body ends that does not contain them. -/
theorem afterFolded?_marks {start body : Text} (once : '>' ∉ start)
    (plain : start.any Char.isAlpha = false) (unclosed : ¬start ++ ['>'] <:+: body)
    (more : Text) :
    afterFolded? (start ++ ['>']) (body ++ (start ++ ['>'] ++ more)) = some more := by
  -- Marks are spelled in one way, so the needle would be a part of the body.
  have marks : (start ++ ['>']).any Char.isAlpha = false := by
    rw [List.any_append, plain]
    rfl
  have itself : Spells (start ++ ['>']) (start ++ ['>']) :=
    List.forall₂_same.mpr fun mark inside =>
      (foldsTo_mark (eq_false_of_ne_true (List.any_eq_false.mp marks mark inside))).mpr rfl
  refine afterFolded?_written once ?_ itself more
  intro part inside spells
  rw [spells.eq_of_marks marks] at inside
  exact unclosed inside

/-- A script element ends where it was written to end. -/
theorem WrittenScript.afterScript?_eq (element : WrittenScript) (more : Text) :
    afterScript? (element.opening ++ '>' :: (element.body ++ (element.closer ++ more))) =
      some more := by
  have closed : afterFolded? ("</script".toList ++ ['>'])
      (element.body ++ (element.closer ++ more)) = some more :=
    afterFolded?_written (by decide) element.unclosed element.closes more
  have bare := element.bare
  have apart := element.apart
  generalize element.opening = opening at bare apart ⊢
  cases opening with
  -- Without attributes the body begins behind the bracket.
  | nil => exact closed
  | cons c opening =>
    obtain ⟨noWord, noColon⟩ := apart c rfl
    have other : c ≠ '>' := (List.ne_of_not_mem_cons bare).symm
    -- The opening tag ends at the first bracket.
    have opened : afterFolded? ">" (opening ++ '>' :: (element.body ++ (element.closer ++ more))) =
        some (element.body ++ (element.closer ++ more)) := by
      have absent : ¬[] ++ ['>'] <:+: opening := fun inside =>
        List.not_mem_of_not_mem_cons bare (inside.subset (by simp))
      exact afterFolded?_marks List.not_mem_nil rfl absent _
    rw [List.cons_append, afterScript?_cons other (by simp [noWord, noColon]), opened]
    exact closed

/-- A body between a start and its closing marks, which it does not contain, is read off up to the
end of the marks. -/
theorem dropFolded?_bind_marks {pattern opener start body : Text} (opens : Spells pattern opener)
    (once : '>' ∉ start) (plain : start.any Char.isAlpha = false)
    (unclosed : ¬start ++ ['>'] <:+: body) (more : Text) :
    (dropFolded? pattern (opener ++ (body ++ (start ++ ['>'])) ++ more)).bind
      (afterFolded? (start ++ ['>'])) = some more := by
  have opened : dropFolded? pattern (opener ++ (body ++ (start ++ ['>'])) ++ more) =
      some (body ++ (start ++ ['>'] ++ more)) :=
    dropFolded?_eq_some_iff.mpr ⟨opener, opens, by simp only [List.append_assoc]⟩
  -- Behind the start the marks are met for the first time where they were written.
  rw [opened]
  exact afterFolded?_marks once plain unclosed more

/-- A comment is hidden, whatever follows it. -/
theorem afterHidden?_comment {body : Text} (unclosed : ¬"-->".toList <:+: body) (more : Text) :
    afterHidden? ("<!--".toList ++ (body ++ "-->".toList) ++ more) = some more := by
  have marks : "-->".toList = ['-', '-'] ++ ['>'] := rfl
  -- The marks have their only bracket at the end.
  rw [marks] at unclosed ⊢
  exact afterHidden?_eq_some_iff.mpr
    (.inl (dropFolded?_bind_marks (by decide) (by decide) (by decide) unclosed more))

/-- A CDATA section is hidden, whatever follows it. -/
theorem afterHidden?_cdata {body : Text} (unclosed : ¬"]]>".toList <:+: body) (more : Text) :
    afterHidden? ("<![CDATA[".toList ++ (body ++ "]]>".toList) ++ more) = some more := by
  have marks : "]]>".toList = [']', ']'] ++ ['>'] := rfl
  -- So do these.
  rw [marks] at unclosed ⊢
  exact afterHidden?_eq_some_iff.mpr
    (.inr (.inl (dropFolded?_bind_marks (by decide) (by decide) (by decide) unclosed more)))

/-- A script element is hidden, whatever follows it. -/
theorem afterHidden?_script (element : WrittenScript) (more : Text) :
    afterHidden? ((Piece.script element).write ++ more) = some more := by
  -- The opening tag is spelled, and the element ends where it was written to end.
  refine afterHidden?_eq_some_iff.mpr (.inr (.inr ?_))
  have whole : (Piece.script element).write ++ more =
      element.opener ++ (element.opening ++ '>' :: (element.body ++ (element.closer ++ more))) := by
    show element.opener ++ (element.opening ++ '>' :: (element.body ++ element.closer)) ++ more = _
    simp only [List.append_assoc, List.cons_append]
  rw [whole, dropFolded?_eq_some_iff.mpr ⟨_, element.opens, rfl⟩]
  exact element.afterScript?_eq more

/-- A character of a name is a letter up to case folding only when it is the letter in one of its
cases. -/
theorem eq_toLower_of_foldsTo {letter c : Char} (folds : foldsTo letter c = true)
    (named : isNameChar c = true) : letter = c.toLower := by
  -- The two characters that fold to a letter from elsewhere are no characters of a name.
  have noLongS : c ≠ 'ſ' := by
    rintro rfl
    exact absurd named (by decide)
  have noKelvin : c ≠ '\u212a' := by
    rintro rfl
    exact absurd named (by decide)
  simpa [foldsTo, noLongS, noKelvin, eq_comm] using folds

/-- What ends the name of a tag is no letter up to case folding. -/
theorem foldsTo_of_endsName {letter c : Char} (alpha : letter.isAlpha = true)
    (ends : endsName c = true) : foldsTo letter c = false := by
  -- A letter of either case would be part of the name.
  have other := isNameChar_of_endsName ends
  have noLongS : c ≠ 'ſ' := by
    rintro rfl
    exact absurd ends (by decide)
  have noKelvin : c ≠ '\u212a' := by
    rintro rfl
    exact absurd ends (by decide)
  have noCase : c.toLower ≠ letter := by
    rintro rfl
    rw [Text.isAlpha_toLower] at alpha
    simp [isNameChar, Char.isAlphanum, alpha] at other
  simp [foldsTo, noLongS, noKelvin, noCase]

/-- A name that is read as letters up to case folding begins with those, as what ends it is no
letter. -/
theorem prefix_of_dropFolded? {start name behind rest : Text}
    (letters : start.all Char.isAlpha = true)
    (named : ∀ c ∈ name, isNameChar c = true) (ends : ∀ c ∈ behind.head?, endsName c = true)
    (found : dropFolded? start (name ++ behind) = some rest) : start <+: Text.asciiLower name := by
  -- By induction on the letters: the name has one for each of them.
  induction start generalizing name with
  | nil => exact List.nil_prefix
  | cons letter start ih =>
    obtain ⟨alpha, letters⟩ := Bool.and_eq_true_iff.mp letters
    cases name with
    | nil =>
      cases behind with
      | nil => cases found
      | cons c behind => simp [dropFolded?, foldsTo_of_endsName alpha (ends c rfl)] at found
    | cons c name =>
      obtain ⟨first, named⟩ := List.forall_mem_cons.mp named
      simp only [List.cons_append, dropFolded?, Option.ite_none_right_eq_some] at found
      rw [eq_toLower_of_foldsTo found.1 first]
      exact List.cons_prefix_cons.mpr ⟨rfl, ih letters named found.2⟩

/-- No declaration begins at the bracket of a written tag. -/
theorem WrittenTag.exists_content_append (written : WrittenTag) (more : Text) :
    ∃ c rest, written.content ++ more = c :: rest ∧ c ≠ '!' := by
  -- It begins with a slash or with a letter.
  obtain ⟨c, rest, name, letter⟩ := written.exists_name_eq
  have other : c ≠ '!' := by
    rintro rfl
    exact absurd letter (by decide)
  simp only [content, name]
  cases written.closing with
  | true => exact ⟨'/', _, rfl, by decide⟩
  | false => exact ⟨c, _, rfl, other⟩

/-- A written tag is not hidden, whatever follows it. -/
theorem afterHidden?_tag (written : WrittenTag) (more : Text) :
    afterHidden? ('<' :: (written.content ++ more)) = none := by
  have noMark : ∀ start rest,
      dropFolded? ('<' :: '!' :: start) ('<' :: (written.content ++ more)) ≠ some rest := by
    intro start rest found
    obtain ⟨c, behind, whole, other⟩ := written.exists_content_append more
    have folds : foldsTo '!' c = true := by
      rw [whole] at found
      simp only [dropFolded?, Option.ite_none_right_eq_some] at found
      exact found.2.1
    exact other ((foldsTo_mark (by decide)).mp folds)
  -- A comment and a section need an exclamation mark, and a script the name of one.
  refine Option.eq_none_iff_forall_ne_some.mpr fun after hidden => ?_
  rcases afterHidden?_eq_some_iff.mp hidden with comment | cdata | script
  · obtain ⟨rest, found, _⟩ := Option.bind_eq_some_iff.mp comment
    exact noMark _ rest found
  · obtain ⟨rest, found, _⟩ := Option.bind_eq_some_iff.mp cdata
    exact noMark _ rest found
  · obtain ⟨rest, found, _⟩ := Option.bind_eq_some_iff.mp script
    -- A closing tag begins with a slash, and the name of an opening one is not that of a script.
    have named : dropFolded? "script" (written.content ++ more) = some rest := by
      simpa [dropFolded?, foldsTo] using found
    simp only [WrittenTag.content, List.append_assoc] at named
    cases closing : written.closing with
    | true =>
      rw [closing] at named
      cases named
    | false =>
      rw [closing] at named
      exact written.visible (prefix_of_dropFolded? (by decide) written.named
        (written.head?_behindName more) named)

/-- No bracket is opened within a written tag. -/
theorem WrittenTag.bracket_notMem_content (written : WrittenTag) : '<' ∉ written.content := by
  -- Each part of a tag is looked at.
  have slash : ∀ present, '<' ∉ slashIf present := by decide
  have name : '<' ∉ written.name := fun inside => absurd (written.named _ inside) (by decide)
  have attributes : '<' ∉ written.attributes.flatMap writeAttribute := by
    intro inside
    obtain ⟨pair, among, inside⟩ := List.mem_flatMap.mp inside
    have noName : '<' ∉ pair.1 := fun inside =>
      absurd ((written.attributeNames pair among).2 _ inside) (by decide)
    simp [writeAttribute, noName, (written.values pair among).2] at inside
  have ending : '<' ∉ written.ending := by
    have space : '<' ∉ written.space := fun inside => absurd (written.blank _ inside) (by decide)
    simp [WrittenTag.ending, space, slash]
  simp [content, slash, name, attributes, ending]

/-- Hidden markup begins with a bracket. -/
theorem afterHidden?_of_ne {c : Char} (other : c ≠ '<') (rest : Text) :
    afterHidden? (c :: rest) = none := by
  -- All three kinds of hidden markup begin with the same bracket.
  have noStart : ∀ start after, dropFolded? ('<' :: start) (c :: rest) ≠ some after := by
    intro start after found
    simp only [dropFolded?, Option.ite_none_right_eq_some] at found
    exact other ((foldsTo_mark (by decide)).mp found.1)
  refine Option.eq_none_iff_forall_ne_some.mpr fun after hidden => ?_
  rcases afterHidden?_eq_some_iff.mp hidden with comment | cdata | script
  · obtain ⟨_, found, _⟩ := Option.bind_eq_some_iff.mp comment
    exact noStart _ _ found
  · obtain ⟨_, found, _⟩ := Option.bind_eq_some_iff.mp cdata
    exact noStart _ _ found
  · obtain ⟨_, found, _⟩ := Option.bind_eq_some_iff.mp script
    exact noStart _ _ found

/-- Text without an opening bracket is kept, whatever follows it. -/
theorem strip_plain_append {front : Text} (plain : '<' ∉ front) (more : Text) :
    strip (front ++ more) = front ++ strip more := by
  -- Character by character, none of which begins anything.
  induction front with
  | nil => rfl
  | cons c front ih =>
    obtain ⟨other, plain⟩ := not_or.mp (mt List.mem_cons.mpr plain)
    rw [List.cons_append, strip_of_kept (afterHidden?_of_ne (Ne.symm other) _), ih plain]
    rfl

/-- Text without an opening bracket is passed over, whatever follows it. -/
theorem steps_plain_append {front : Text} (plain : '<' ∉ front) (rest : Text) :
    steps (front ++ rest) = steps rest := by
  -- Both texts have the same first bracket, or none.
  have passed : ∀ c ∈ front, decide (c ≠ '<') = true :=
    fun c inside => decide_eq_true fun same => plain (same ▸ inside)
  have same : (front ++ rest).dropWhile (· ≠ '<') = rest.dropWhile (· ≠ '<') :=
    List.dropWhile_append_of_pos passed
  cases start : rest.dropWhile (· ≠ '<') with
  | nil => rw [steps_of_plain start, steps_of_plain (same.trans start)]
  | cons c behind => rw [steps_of_start start, steps_of_start (same.trans start)]

/-- A piece is stripped apart from what follows it: hidden pieces go, others are kept. -/
theorem strip_piece_append (piece : Piece) (more : Text) :
    strip (piece.write ++ more) = piece.kept ++ strip more := by
  -- One case for each kind of piece.
  cases piece with
  | text content plain => exact strip_plain_append plain more
  | comment body unclosed => exact strip_of_hidden (afterHidden?_comment unclosed more)
  | cdata body unclosed => exact strip_of_hidden (afterHidden?_cdata unclosed more)
  | script element => exact strip_of_hidden (afterHidden?_script element more)
  | tag written =>
    have kept := strip_of_kept (afterHidden?_tag written more)
    rw [strip_plain_append written.bracket_notMem_content] at kept
    exact kept

/-- What is kept of a piece is scanned apart from what follows it: its tag is reported if it is
one. -/
theorem steps_kept_append (piece : Piece) (rest : Text) :
    steps (piece.kept ++ rest) =
      piece.tag?.toList.map (fun written => .tag written.tag) ++ steps rest := by
  -- Of the hidden pieces nothing is left to be scanned.
  cases piece with
  | text content plain => exact steps_plain_append plain rest
  | comment => rfl
  | cdata => rfl
  | script => rfl
  | tag written =>
    have start : ('<' :: (written.content ++ rest)).dropWhile (· ≠ '<') =
        '<' :: (written.content ++ rest) := by simp
    have read := steps_of_start start
    simp only [written.opensTag_content, written.read?_content, if_true] at read
    exact read

/-- A reader who asks for some tags of a scan is given those in order, and then the end. -/
theorem report_tags (names : List Text) (n : Nat) (tags : List Tag) :
    report names n (tags.map Step.tag) =
      (tags.filter (·.name ∈ names))[n]?.elim .finish Step.tag := by
  induction tags generalizing n with
  | nil =>
    induction n with
    | zero => rfl
    | succ n ih => exact ih
  | cons tag tags ih =>
    by_cases asked : tag.name ∈ names
    · -- A tag that is asked for is the answer to the first request.
      have first : next names (.tag tag :: tags.map Step.tag) = (.tag tag, tags.map Step.tag) := by
        simp [next, Step.isReported, asked]
      rw [List.filter_cons_of_pos (by simpa using asked)]
      cases n with
      | zero => simp only [List.map_cons, report, first, List.getElem?_cons_zero, Option.elim_some]
      | succ n => simp only [List.map_cons, report, first, List.getElem?_cons_succ, ih]
    · -- The tag is passed over at the next request, which is answered from what is behind it.
      have passed :
          next names (.tag tag :: tags.map Step.tag) = next names (tags.map Step.tag) := by
        simp [next, Step.isReported, asked]
      have same : report names n (.tag tag :: tags.map Step.tag) =
          report names n (tags.map Step.tag) := by
        cases n with
        | zero => simp only [report, passed]
        | succ n => simp only [report, passed]
      rw [List.map_cons, same, ih, List.filter_cons_of_neg (by simpa using asked)]

/-- A page is scanned for the tags that are written into it: those are reported in order, with their
names in lower case and their attributes as they were written, and then the end; nothing is reported
of what was written into text, comments, CDATA sections and scripts. -/
theorem scan_write (page : List Piece) :
    scan (write page) = (writtenTags page).map (fun written => .tag written.tag) ∧
      (∀ names n, report names n (scan (write page)) =
        (((writtenTags page).map WrittenTag.tag).filter (·.name ∈ names))[n]?.elim
          .finish Step.tag) ∧
      ∀ written ∈ writtenTags page, ∀ name value,
        Table.get? name written.tag.attributes = some value ↔
          ∃ spelled, (spelled, value) ∈ written.attributes ∧ Text.asciiLower spelled = name := by
  -- By induction on the pieces, each of which is stripped and scanned on its own.
  have scanned : scan (write page) = (writtenTags page).map (fun written => .tag written.tag) := by
    rw [scan]
    induction page with
    | nil =>
      rw [write, List.flatMap_nil, strip, steps_of_plain rfl]
      rfl
    | cons piece page ih =>
      rw [write, List.flatMap_cons, strip_piece_append, steps_kept_append, ← write, ih]
      cases tag : piece.tag? with
      | none => simp [writtenTags, tag]
      | some written => simp [writtenTags, tag]
  refine ⟨scanned, ?_, fun written _ => written.get?_attributes⟩
  intro names n
  rw [scanned, ← report_tags, List.map_map]
  rfl

/-- A tag in a comment and one in a script are not reported, and a bracket in a value is no end of a
tag. -/
theorem scan_write_hidden :
    scan "<!--<a>--><Script src='x'><a></SCRIPT>\n<LINK Href=\"a>b\" />".toList =
      [.tag ⟨"link".toList, [("href".toList, "a>b".toList)], true⟩] := by
  -- The page is written from its pieces, with all that makes them well-formed.
  have unclosed : ∀ part, part <:+: "<a>".toList → ¬Spells "</script>" part := by
    intro part inside spells
    have long : 9 ≤ part.length := Nat.le_of_eq spells.length_eq
    exact absurd (Nat.le_trans long inside.length_le) (by decide)
  have apart : ∀ c ∈ " src='x'".toList.head?, Text.isWordChar c = false ∧ c ≠ ':' := by
    intro c first
    cases first
    decide +kernel
  have href : IsAttributeName "Href".toList := ⟨by decide, List.all_eq_true.mp (by decide)⟩
  exact (scan_write [
    .comment "<a>".toList (by decide),
    .script {
      opener := "<Script".toList, opening := " src='x'".toList, body := "<a>".toList,
      closer := "</SCRIPT>".toList, opens := by decide, bare := by decide,
      apart, unclosed, closes := by decide },
    .text ['\n'] (by decide),
    .tag {
      closing := false, name := "LINK".toList, attributes := [("Href".toList, "a>b".toList)],
      space := [' '], selfClosing := true, starts := by decide,
      named := List.all_eq_true.mp (by decide), visible := by decide,
      attributeNames := List.forall_mem_singleton.mpr href, values := by decide,
      distinct := by decide, blank := List.all_eq_true.mp (by decide) }]).1

end RelyingParty.Html
