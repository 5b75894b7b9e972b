import RelyingParty.Html.Entity
import RelyingParty.Proofs.Text.Replace

/-! The values of links are escaped in a single pass, and the escapes are undone mark by mark. What
is undone for one mark may be an escape of the next one. -/

namespace RelyingParty.Html

/-- The marks that are escaped in the values of links. -/
def linkMarks : List Char := ['&', '<', '>', '"']

/-- The escape of a mark; another character stays as it is. -/
def markEscape (c : Char) : Text :=
  if c = '&' then "&amp;"
  else if c = '<' then "&lt;"
  else if c = '>' then "&gt;"
  else if c = '"' then "&quot;"
  else [c]

/-- A text with its marks escaped, all in a single pass. -/
def escapeLink (text : Text) : Text := text.flatMap markEscape

/-- A text with some of its marks escaped, all in a single pass. -/
def escapeSome (marks : List Char) (text : Text) : Text :=
  text.flatMap fun c => if c ∈ marks then markEscape c else [c]

/-- What is no mark has no escape. -/
theorem markEscape_of_not_mem {c : Char} (other : c ∉ linkMarks) : markEscape c = [c] := by
  -- It is none of the four that are asked for.
  simp only [linkMarks, List.mem_cons, List.not_mem_nil, or_false, not_or] at other
  obtain ⟨ampersand, less, greater, quote⟩ := other
  rw [markEscape, if_neg ampersand, if_neg less, if_neg greater, if_neg quote]

/-- A text is escaped when all marks are. -/
theorem escapeLink_eq (text : Text) : escapeLink text = escapeSome linkMarks text := by
  -- Character by character, either is asked for the same marks.
  refine List.flatMap_congr fun c _ => ?_
  split
  · rfl
  · rename_i other
    exact markEscape_of_not_mem other

/-- An escape begins with an ampersand, and no other mark is in it. -/
theorem exists_markEscape_eq {mark : Char} (known : mark ∈ linkMarks) :
    ∃ body, markEscape mark = '&' :: body ∧ ∀ c ∈ body, c ∉ linkMarks := by
  -- Each of the four is tried.
  have each : (linkMarks.all fun mark => markEscape mark = '&' :: (markEscape mark).tail ∧
      ((markEscape mark).tail.all fun c => c ∉ linkMarks)) = true := by
    decide
  have own := of_decide_eq_true (List.all_eq_true.mp each mark known)
  exact ⟨_, own.1, fun c inside => of_decide_eq_true (List.all_eq_true.mp own.2 c inside)⟩

/-- No escape begins with another one. -/
theorem dropStart?_markEscape {mark other : Char} (known : mark ∈ linkMarks)
    (known' : other ∈ linkMarks) (differs : mark ≠ other) (rest : Text) :
    Text.dropStart? (markEscape mark) (markEscape other ++ rest) = none := by
  have each : (linkMarks.all fun mark => linkMarks.all fun other =>
      mark ≠ other → ¬markEscape mark <+: markEscape other) = true := by
    decide
  have apart : ∀ {mark other : Char}, mark ∈ linkMarks → other ∈ linkMarks → mark ≠ other →
      ¬markEscape mark <+: markEscape other := by
    intro mark other known known'
    exact of_decide_eq_true
      (List.all_eq_true.mp (List.all_eq_true.mp each mark known) other known')
  refine Text.dropStart?_eq_none_iff.mpr fun start => ?_
  -- Of two starts of one text the shorter one is a start of the other.
  rcases List.prefix_or_prefix_of_prefix start (List.prefix_append _ rest) with first | second
  · exact apart known known' differs first
  · exact apart known' known (Ne.symm differs) second

/-- Nothing is escaped in an empty text. -/
theorem escapeSome_nil (marks : List Char) : escapeSome marks [] = [] := rfl

/-- The first character is escaped, or stays. -/
theorem escapeSome_cons (marks : List Char) (c : Char) (rest : Text) :
    escapeSome marks (c :: rest) =
      (if c ∈ marks then markEscape c else [c]) ++ escapeSome marks rest := List.flatMap_cons

/-- A text without marks stays. -/
theorem escapeSome_append {marks : List Char} {front : Text} (plain : ∀ c ∈ front, c ∉ marks)
    (rest : Text) : escapeSome marks (front ++ rest) = front ++ escapeSome marks rest := by
  -- By induction on the text in front.
  induction front with
  | nil => rfl
  | cons c front ih =>
    rw [List.cons_append, escapeSome_cons, if_neg (plain c (.head _)), List.singleton_append,
      ih fun d inside => plain d (.tail _ inside), List.cons_append]

/-- Without marks nothing is escaped. -/
theorem escapeSome_no_marks (text : Text) : escapeSome [] text = text := by
  rw [← List.append_nil text, escapeSome_append (fun c _ => List.not_mem_nil), escapeSome_nil]

/-- A start without marks stands at an escaped text when it stands at the text. -/
theorem dropStart?_escapeSome {marks : List Char} (known : marks ⊆ linkMarks)
    {start : Text} (plain : ∀ c ∈ start, c ∉ linkMarks) (text : Text) :
    Text.dropStart? start (escapeSome marks text) =
      (Text.dropStart? start text).map (escapeSome marks) := by
  induction start generalizing text with
  | nil => rfl
  | cons s start ih =>
    have unmarked : s ∉ linkMarks := plain s (.head _)
    cases text with
    | nil => rfl
    | cons c rest =>
      rw [escapeSome_cons]
      by_cases marked : c ∈ marks
      · -- Neither the mark nor the ampersand of its escape is in the start.
        obtain ⟨body, escape, _⟩ := exists_markEscape_eq (known marked)
        have noMark : s ≠ c := fun same => unmarked (same ▸ known marked)
        have noEscape : s ≠ '&' := fun same => unmarked (same ▸ List.mem_cons_self)
        rw [if_pos marked, escape, List.cons_append, Text.dropStart?, Text.dropStart?,
          if_neg noMark, if_neg noEscape]
        rfl
      · rw [if_neg marked, List.singleton_append, Text.dropStart?, Text.dropStart?]
        split
        · exact ih (fun d inside => plain d (.tail _ inside)) rest
        · rfl

section Undone

variable {mark : Char} (known : mark ∈ linkMarks)
include known

/-- An escape is not empty. -/
theorem markEscape_ne_nil : markEscape mark ≠ [] := by
  -- It begins with an ampersand.
  obtain ⟨body, escape, _⟩ := exists_markEscape_eq known
  rw [escape]
  exact List.cons_ne_nil _ _

/-- An escape of another mark is passed over. -/
theorem replaceAll_markEscape {other : Char} (known' : other ∈ linkMarks) (differs : mark ≠ other)
    (rest : Text) :
    Text.replaceAll (markEscape mark) [mark] (markEscape other ++ rest) =
      markEscape other ++ Text.replaceAll (markEscape mark) [mark] rest := by
  have start := dropStart?_markEscape known known' differs rest
  obtain ⟨body, escape, _⟩ := exists_markEscape_eq known
  obtain ⟨body', escape', plain⟩ := exists_markEscape_eq known'
  -- No ampersand is left behind the first one.
  have absent : '&' ∉ body' := fun inside => plain '&' inside List.mem_cons_self
  rw [escape', List.cons_append] at start ⊢
  rw [Text.replaceAll_of_absent start, escape, Text.replaceAll_append_of_not_mem absent,
    List.cons_append]

end Undone

/-- When the ampersand is undone first, those of the text come back, and other escapes stay. -/
theorem replaceAll_ampersand (marks : List Char) (known : marks ⊆ linkMarks)
    (other : '&' ∉ marks) (text : Text) :
    Text.replaceAll (markEscape '&') ['&'] (escapeSome ('&' :: marks) text) =
      escapeSome marks text := by
  -- By induction on the text: an ampersand, another mark, and anything else.
  have ampersand : '&' ∈ linkMarks := List.mem_cons_self
  induction text with
  | nil => rfl
  | cons c rest ih =>
    rw [escapeSome_cons, escapeSome_cons]
    by_cases same : c = '&'
    · subst same
      rw [if_pos List.mem_cons_self, if_neg other,
        Text.replaceAll_append (markEscape_ne_nil ampersand), ih]
    by_cases marked : c ∈ marks
    · rw [if_pos (List.mem_cons_of_mem _ marked), if_pos marked,
        replaceAll_markEscape ampersand (known marked) (Ne.symm same), ih]
    · have unmarked : c ∉ '&' :: marks := List.not_mem_cons_of_ne_of_not_mem same marked
      have start : Text.dropStart? (markEscape '&') (c :: escapeSome ('&' :: marks) rest) = none :=
        if_neg (Ne.symm same)
      rw [if_neg unmarked, if_neg marked, List.singleton_append, List.singleton_append,
        Text.replaceAll_of_absent start, ih]

/-- When another mark is undone, those of the text come back, and so does what looks like an escape
of it in the text itself. -/
theorem replaceAll_mark (mark : Char) (marks : List Char) (known : mark :: marks ⊆ linkMarks)
    (later : '&' ∉ mark :: marks) (once : mark ∉ marks) (text : Text) :
    Text.replaceAll (markEscape mark) [mark] (escapeSome (mark :: marks) text) =
      escapeSome marks (Text.replaceAll (markEscape mark) [mark] text) := by
  obtain ⟨first, others⟩ := List.cons_subset.mp known
  have some_escape := markEscape_ne_nil first
  obtain ⟨body, escape, plain⟩ := exists_markEscape_eq first
  -- The occurrences in the text are those in the text with other marks escaped.
  induction text using Text.occurrence_induction some_escape with
  | nil => rfl
  | found rest ih =>
    -- An escape of the text itself is kept as it is, since no character of it is escaped.
    have unmarked : ∀ c ∈ markEscape mark, c ∉ mark :: marks := by
      rw [escape]
      intro c inside marked
      rcases List.mem_cons.mp inside with rfl | inside
      · exact later marked
      · exact plain c inside (known marked)
    rw [escapeSome_append unmarked, Text.replaceAll_append some_escape,
      Text.replaceAll_append some_escape, ih, List.singleton_append, List.singleton_append,
      escapeSome_cons, if_neg once, List.singleton_append]
  | other c rest absent ih =>
    rw [Text.replaceAll_of_absent absent, escapeSome_cons, escapeSome_cons]
    -- The next character is the mark itself, another mark that is escaped, or none.
    by_cases same : c = mark
    · subst same
      rw [if_pos List.mem_cons_self, if_neg once, Text.replaceAll_append some_escape, ih]
    by_cases marked : c ∈ marks
    · rw [if_pos (List.mem_cons_of_mem _ marked), if_pos marked,
        replaceAll_markEscape first (others marked) (Ne.symm same), ih]
    · have unmarked : c ∉ mark :: marks := List.not_mem_cons_of_ne_of_not_mem same marked
      -- Such a character does not begin an escape with what follows, whatever of that is escaped.
      have start :
          Text.dropStart? (markEscape mark) (c :: escapeSome (mark :: marks) rest) = none := by
        rw [escape, Text.dropStart?] at absent ⊢
        split
        · rename_i begins
          rw [if_pos begins] at absent
          rw [dropStart?_escapeSome known plain, absent]
          rfl
        · rfl
      rw [if_neg unmarked, if_neg marked, List.singleton_append, List.singleton_append,
        Text.replaceAll_of_absent start, ih]

/-- What is undone of an escaped text is the text with all marks but the ampersand undone in it once
more. -/
theorem unescapeLink_escapeLink (text : Text) :
    unescapeLink (escapeLink text) =
      Text.replaceAll "&quot;" ['"'] (Text.replaceAll "&gt;" ['>']
        (Text.replaceAll "&lt;" ['<'] text)) := by
  have three : ['<', '>', '"'] ⊆ linkMarks := List.drop_subset 1 linkMarks
  have two : ['>', '"'] ⊆ linkMarks := List.drop_subset 2 linkMarks
  have one : ['"'] ⊆ linkMarks := List.drop_subset 3 linkMarks
  -- Each replacement leaves the marks behind its own escaped.
  have ampersand (text : Text) : Text.replaceAll "&amp;" ['&'] (escapeSome linkMarks text) =
      escapeSome ['<', '>', '"'] text := replaceAll_ampersand _ three (by decide) text
  have less (text : Text) : Text.replaceAll "&lt;" ['<'] (escapeSome ['<', '>', '"'] text) =
      escapeSome ['>', '"'] (Text.replaceAll "&lt;" ['<'] text) :=
    replaceAll_mark '<' _ three (by decide) (by decide) text
  have greater (text : Text) : Text.replaceAll "&gt;" ['>'] (escapeSome ['>', '"'] text) =
      escapeSome ['"'] (Text.replaceAll "&gt;" ['>'] text) :=
    replaceAll_mark '>' _ two (by decide) (by decide) text
  have quote (text : Text) : Text.replaceAll "&quot;" ['"'] (escapeSome ['"'] text) =
      escapeSome [] (Text.replaceAll "&quot;" ['"'] text) :=
    replaceAll_mark '"' _ one (by decide) (by decide) text
  rw [unescapeLink, escapeLink_eq, ampersand, less, greater, quote, escapeSome_no_marks]

/-- A text is read back from its escapes exactly when it has no escape of its own, except for those
of the ampersand. The ampersand is undone first, so that in front of a name of another mark it is
undone again with that. -/
theorem unescapeLink_escapeLink_eq_iff (text : Text) :
    unescapeLink (escapeLink text) = text ↔
      ¬"&lt;".toList <:+: text ∧ ¬"&gt;".toList <:+: text ∧ ¬"&quot;".toList <:+: text := by
  rw [unescapeLink_escapeLink]
  constructor
  · intro same
    -- Every replacement shortens the text when it finds something, and none lengthens it.
    have all := congrArg List.length same
    have lessShorter : ['<'].length < "&lt;".toList.length := by decide
    have greaterShorter : ['>'].length < "&gt;".toList.length := by decide
    have quoteShorter : ['"'].length < "&quot;".toList.length := by decide
    have first := Text.length_replaceAll_le lessShorter text
    have second := Text.length_replaceAll_le greaterShorter (Text.replaceAll "&lt;" ['<'] text)
    have third := Text.length_replaceAll_le quoteShorter
      (Text.replaceAll "&gt;" ['>'] (Text.replaceAll "&lt;" ['<'] text))
    have less : ¬"&lt;".toList <:+: text := Text.not_infix_of_length_le lessShorter (by omega)
    rw [Text.replaceAll_of_not_infix less] at all second third
    have greater : ¬"&gt;".toList <:+: text :=
      Text.not_infix_of_length_le greaterShorter (by omega)
    rw [Text.replaceAll_of_not_infix greater] at all third
    have quote : ¬"&quot;".toList <:+: text := Text.not_infix_of_length_le quoteShorter (by omega)
    exact ⟨less, greater, quote⟩
  · rintro ⟨less, greater, quote⟩
    -- Without escapes of these marks there is nothing to undo.
    rw [Text.replaceAll_of_not_infix less, Text.replaceAll_of_not_infix greater,
      Text.replaceAll_of_not_infix quote]

/-- The name of a reference in a query is taken for the reference. -/
example : escapeLink "?a=1&lt;=2".toList = "?a=1&amp;lt;=2".toList ∧
    unescapeLink (escapeLink "?a=1&lt;=2".toList) = "?a=1<=2".toList := by
  decide

end RelyingParty.Html
