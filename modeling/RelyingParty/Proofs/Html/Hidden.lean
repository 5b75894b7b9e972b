import Mathlib.Data.List.Forall2
import RelyingParty.Html.Strip
import RelyingParty.Proofs.Text.Casing

/-! Hidden markup that ends in a text is hidden in the same way, whatever follows the text. -/

namespace RelyingParty.Html

/-- Whether a text is a pattern of lower-case letters and other characters, up to case folding. -/
def Spells (pattern text : Text) : Prop :=
  List.Forall₂ (fun letter c => foldsTo letter c = true) pattern text

instance (pattern text : Text) : Decidable (Spells pattern text) :=
  inferInstanceAs (Decidable (List.Forall₂ _ pattern text))

/-- A start is dropped where a text spells it. -/
theorem dropFolded?_eq_some_iff {start text rest : Text} :
    dropFolded? start text = some rest ↔ ∃ front, Spells start front ∧ text = front ++ rest := by
  -- Letter by letter, each folds to the character that stands there.
  constructor
  · intro found
    fun_induction dropFolded? start text with
    | case1 text =>
      cases found
      exact ⟨[], .nil, rfl⟩
    | case2 => cases found
    | case3 letter start c text folds ih =>
      obtain ⟨front, spells, rfl⟩ := ih found
      exact ⟨c :: front, .cons folds spells, rfl⟩
    | case4 => cases found
  · -- Conversely by induction on the spelling.
    rintro ⟨front, spells, rfl⟩
    induction spells with
    | nil => rfl
    | cons folds spells ih => simp [dropFolded?, folds, ih]

/-- A start that a text has is dropped from it, whatever follows the text. -/
theorem dropFolded?_append {start text rest : Text} (found : dropFolded? start text = some rest)
    (more : Text) : dropFolded? start (text ++ more) = some (rest ++ more) := by
  -- The spelled start is in front of all that follows.
  obtain ⟨front, spells, rfl⟩ := dropFolded?_eq_some_iff.mp found
  exact dropFolded?_eq_some_iff.mpr ⟨front, spells, List.append_assoc front rest more⟩

/-- A start that a text long enough does not have is not there either, whatever follows. -/
theorem dropFolded?_append_eq_none {start text : Text} (missing : dropFolded? start text = none)
    (long : start.length ≤ text.length) (more : Text) :
    dropFolded? start (text ++ more) = none := by
  -- The text is as long as the start, so the first difference is in it.
  fun_induction dropFolded? start text with
  | case1 => cases missing
  | case2 letter start => simp at long
  | case3 letter start c text folds ih =>
    have shorter : start.length ≤ text.length := by simpa using long
    simpa [dropFolded?, folds] using ih missing shorter
  | case4 letter start c text differs => simp [dropFolded?, differs]

/-- A text that has a needle is at least as long. -/
theorem length_le_of_afterFolded? {needle text rest : Text}
    (found : afterFolded? needle text = some rest) : needle.length ≤ text.length := by
  -- The needle stands somewhere behind the characters that are passed over.
  fun_induction afterFolded? needle text with
  | case1 => cases found
  | case2 c tail after dropped =>
    have lengths := dropFolded?_length dropped
    omega
  | case3 c tail missing ih =>
    have shorter := ih found
    simp only [List.length_cons]
    omega

/-- The first occurrence of a needle in a text is the first one, whatever follows the text. -/
theorem afterFolded?_append {needle text rest : Text}
    (found : afterFolded? needle text = some rest) (more : Text) :
    afterFolded? needle (text ++ more) = some (rest ++ more) := by
  fun_induction afterFolded? needle text with
  | case1 => cases found
  | case2 c tail after dropped =>
    cases found
    have start := dropFolded?_append dropped more
    rw [List.cons_append] at start
    simp [afterFolded?, start]
  | case3 c tail missing ih =>
    -- The needle is found behind the first character, so it is not longer than the text.
    have long := length_le_of_afterFolded? found
    have still := dropFolded?_append_eq_none missing (Nat.le_succ_of_le long) more
    rw [List.cons_append] at still
    simpa [afterFolded?, still] using ih found

/-- An opening tag with more than its name ends at the first bracket, and the element behind
that. -/
theorem afterScript?_cons {c : Char} {rest : Text} (bracket : c ≠ '>')
    (apart : (Text.isWordChar c || c = ':') = false) :
    afterScript? (c :: rest) = (afterFolded? ">" rest).bind (afterFolded? "</script>") := by
  -- The other two cases begin with a bracket, or go on with the name.
  unfold afterScript?
  split
  · contradiction
  · rename_i same
    cases same
    exact absurd rfl bracket
  · rename_i same
    cases same
    exact if_neg (ne_true_of_eq_false apart)

/-- A script element that ends in a text is the same, whatever follows the text. -/
theorem afterScript?_append {text rest : Text} (found : afterScript? text = some rest)
    (more : Text) : afterScript? (text ++ more) = some (rest ++ more) := by
  -- The bracket and the closing tag are found where they were.
  unfold afterScript? at found
  split at found
  · cases found
  · exact afterFolded?_append found more
  · rename_i c tail noBracket
    split at found
    · cases found
    · rename_i starts
      obtain ⟨body, opened, closed⟩ := Option.bind_eq_some_iff.mp found
      rw [List.cons_append, afterScript?_cons noBracket (eq_false_of_ne_true starts),
        afterFolded?_append opened, Option.bind_some, afterFolded?_append closed]

/-- Two starts of one text agree where they are compared with the same character of it. -/
theorem exists_foldsTo_of_dropFolded? (front : Text) {start start' text rest rest' : Text}
    {a b : Char} (found : dropFolded? (front ++ a :: start) text = some rest)
    (found' : dropFolded? (front ++ b :: start') text = some rest') :
    ∃ c, foldsTo a c = true ∧ foldsTo b c = true := by
  -- By induction on what the starts have in common; then both meet the next character.
  induction front generalizing text with
  | nil =>
    cases text with
    | nil => cases found
    | cons c text =>
      simp only [List.nil_append, dropFolded?, Option.ite_none_right_eq_some] at found found'
      exact ⟨c, found.1, found'.1⟩
  | cons letter front ih =>
    cases text with
    | nil => cases found
    | cons c text =>
      simp only [List.cons_append, dropFolded?, Option.ite_none_right_eq_some] at found found'
      exact ih found.2 found'.2

/-- A mark that is no letter folds to itself alone. -/
theorem foldsTo_mark {mark c : Char} (plain : mark.isAlpha = false) :
    foldsTo mark c = true ↔ c = mark := by
  -- Only two letters fold to a character of another alphabet.
  have noS : mark ≠ 's' := by
    rintro rfl
    cases plain
  have noK : mark ≠ 'k' := by
    rintro rfl
    cases plain
  simp [foldsTo, noS, noK, Text.toLower_eq_iff plain]

/-- No character is up to case folding two of those by which hidden markup is told apart. -/
theorem foldsTo_apart {c : Char} :
    ¬(foldsTo '-' c = true ∧ foldsTo '[' c = true) ∧
      ¬(foldsTo '!' c = true ∧ foldsTo 's' c = true) := by
  -- In each pair there is a mark that folds to itself alone.
  constructor
  · rintro ⟨hyphen, bracket⟩
    cases (foldsTo_mark (by decide)).mp hyphen
    exact absurd bracket (by decide)
  · rintro ⟨mark, letter⟩
    cases (foldsTo_mark (by decide)).mp mark
    exact absurd letter (by decide)

/-- Hidden markup is a comment, a CDATA section or a script element; which one it is does not depend
on the order in which they are tried, since their starts differ. -/
theorem afterHidden?_eq_some_iff {text after : Text} :
    afterHidden? text = some after ↔
      (dropFolded? "<!--" text).bind (afterFolded? "-->") = some after ∨
        (dropFolded? "<![cdata[" text).bind (afterFolded? "]]>") = some after ∨
          (dropFolded? "<script" text).bind afterScript? = some after := by
  -- Any two of the starts differ at a character where no text can spell both.
  have comment_section : ∀ rest rest', dropFolded? "<!--" text = some rest →
      dropFolded? "<![cdata[" text = some rest' → False := by
    intro rest rest' comment cdata
    obtain ⟨c, folds⟩ := exists_foldsTo_of_dropFolded? ['<', '!'] comment cdata
    exact foldsTo_apart.1 folds
  have comment_script : ∀ rest rest', dropFolded? "<!--" text = some rest →
      dropFolded? "<script" text = some rest' → False := by
    intro rest rest' comment script
    obtain ⟨c, folds⟩ := exists_foldsTo_of_dropFolded? ['<'] comment script
    exact foldsTo_apart.2 folds
  have section_script : ∀ rest rest', dropFolded? "<![cdata[" text = some rest →
      dropFolded? "<script" text = some rest' → False := by
    intro rest rest' cdata script
    obtain ⟨c, folds⟩ := exists_foldsTo_of_dropFolded? ['<'] cdata script
    exact foldsTo_apart.2 folds
  unfold afterHidden?
  cases comment : dropFolded? "<!--" text with
  -- With one start dropped, the others are not.
  | some rest =>
    have cdata := Option.eq_none_iff_forall_ne_some.mpr fun rest' =>
      comment_section rest rest' comment
    have script := Option.eq_none_iff_forall_ne_some.mpr fun rest' =>
      comment_script rest rest' comment
    simp only [cdata, script, Option.bind_some, Option.bind_none, reduceCtorEq, or_false]
  | none =>
    cases cdata : dropFolded? "<![cdata[" text with
    | some rest =>
      have script := Option.eq_none_iff_forall_ne_some.mpr fun rest' =>
        section_script rest rest' cdata
      simp only [script, Option.bind_some, Option.bind_none, reduceCtorEq, false_or, or_false]
    | none => simp only [Option.bind_none, reduceCtorEq, false_or]

/-- Hidden markup that ends in a text is the same, whatever follows the text. -/
theorem afterHidden?_append {text after : Text} (found : afterHidden? text = some after)
    (more : Text) : afterHidden? (text ++ more) = some (after ++ more) := by
  -- The start and the end of it are found in the longer text too.
  rw [afterHidden?_eq_some_iff] at found ⊢
  simp only [Option.bind_eq_some_iff] at found ⊢
  rcases found with ⟨rest, opened, closed⟩ | ⟨rest, opened, closed⟩ | ⟨rest, opened, closed⟩
  · exact .inl ⟨_, dropFolded?_append opened more, afterFolded?_append closed more⟩
  · exact .inr (.inl ⟨_, dropFolded?_append opened more, afterFolded?_append closed more⟩)
  · exact .inr (.inr ⟨_, dropFolded?_append opened more, afterScript?_append closed more⟩)

/-- Whether hidden markup of a text with what follows it begins in the text and ends behind it. -/
def hidesAcross (more text : Text) : Bool :=
  match text with
  | [] => false
  | c :: rest =>
    match _hidden : afterHidden? (c :: rest) with
    | some after => hidesAcross more after
    -- No hidden markup that begins here ends in the text, but it may with more behind it.
    | none => (afterHidden? (c :: rest ++ more)).isSome || hidesAcross more rest
termination_by text.length
decreasing_by
  · exact afterHidden?_length _hidden
  · simp

/-- Hidden markup is left out of a page. -/
theorem strip_of_hidden {text after : Text} (hidden : afterHidden? text = some after) :
    strip text = strip after := by
  -- A text that hides something is not empty.
  cases text with
  | nil => cases hidden
  | cons c rest =>
    rw [strip]
    split
    · rename_i found
      cases hidden.symm.trans found
      rfl
    · rename_i found
      cases hidden.symm.trans found

/-- A character that begins no hidden markup is kept. -/
theorem strip_of_kept {c : Char} {rest : Text} (kept : afterHidden? (c :: rest) = none) :
    strip (c :: rest) = c :: strip rest := by
  -- The other case hides something here.
  rw [strip]
  split
  · rename_i found
    cases kept.symm.trans found
  · rfl

/-- When no hidden markup reaches from a text into what follows, both are stripped apart. -/
theorem strip_append {text more : Text} (apart : hidesAcross more text = false) :
    strip (text ++ more) = strip text ++ strip more := by
  -- By induction on the text, along its hidden parts and its kept characters.
  fun_induction hidesAcross more text with
  | case1 => simp [strip]
  | case2 c rest after hidden ih =>
    rw [strip_of_hidden hidden, strip_of_hidden (afterHidden?_append hidden more), ih apart]
  | case3 c rest kept ih =>
    simp only [Bool.or_eq_false_iff, Option.isSome_eq_false_iff, Option.isNone_iff_eq_none] at apart
    rw [strip_of_kept kept, List.cons_append, List.cons_append, ← ih apart.2]
    exact strip_of_kept apart.1

end RelyingParty.Html
