import RelyingParty.Text.Word

/-! Comments, CDATA sections and script elements are taken out of a page before it is scanned. -/

namespace RelyingParty.Html

/-- Whether a character is a lower-case letter of ASCII, or any other character, up to simple case
folding. -/
def foldsTo (letter c : Char) : Bool :=
  c.toLower = letter || (letter = 's' && c = 'ſ') || (letter = 'k' && c = '\u212a')

/-- The text after `start`, when it begins with it up to case folding. -/
def dropFolded? : (start text : Text) → Option Text
  | [], text => some text
  | _ :: _, [] => none
  | s :: start, c :: text => if foldsTo s c then dropFolded? start text else none

/-- The text after the first occurrence of `needle` up to case folding. -/
def afterFolded? (needle : Text) : Text → Option Text
  | [] => none
  | c :: rest =>
    match dropFolded? needle (c :: rest) with
    | some after => some after
    -- The needle may begin at the next character.
    | none => afterFolded? needle rest

/-- The text after a script element whose opening tag is read up to its name. -/
def afterScript? (text : Text) : Option Text :=
  match text with
  | [] => none
  | '>' :: body => afterFolded? "</script>" body
  | c :: rest =>
    -- A name that goes on is that of another element.
    if Text.isWordChar c || c = ':' then none
    else (afterFolded? ">" rest).bind (afterFolded? "</script>")

/-- The text after the comment, CDATA section or script element that it begins with. -/
def afterHidden? (text : Text) : Option Text :=
  match dropFolded? "<!--" text with
  | some rest => afterFolded? "-->" rest
  | none =>
    -- A comment that does not end hides nothing, and the other starts differ from its own.
    match dropFolded? "<![cdata[" text with
    | some rest => afterFolded? "]]>" rest
    | none => (dropFolded? "<script" text).bind afterScript?

theorem dropFolded?_length {start text rest : Text} (found : dropFolded? start text = some rest) :
    rest.length + start.length = text.length := by
  -- Each matched character is one character less.
  fun_induction dropFolded? start text with
  | case1 => simp_all
  | case2 => simp at found
  | case3 s start c text _ ih => have := ih found; simp; omega
  | case4 => simp at found

theorem afterFolded?_length {needle text rest : Text}
    (found : afterFolded? needle text = some rest) : rest.length ≤ text.length := by
  -- The occurrence is found in the text or in its tail.
  fun_induction afterFolded? needle text with
  | case1 => simp at found
  | case2 c tail after matched =>
    have := dropFolded?_length matched
    simp_all
    omega
  | case3 c tail _ ih => have := ih found; simp; omega

theorem afterScript?_length {text rest : Text} (found : afterScript? text = some rest) :
    rest.length ≤ text.length := by
  -- Both searches go forward.
  unfold afterScript? at found
  split at found
  · simp at found
  · have := afterFolded?_length found
    simp
    omega
  · split at found
    · simp at found
    · obtain ⟨middle, opened, closed⟩ := Option.bind_eq_some_iff.mp found
      have := afterFolded?_length opened
      have := afterFolded?_length closed
      simp
      omega

theorem afterHidden?_length {text rest : Text} (found : afterHidden? text = some rest) :
    rest.length < text.length := by
  -- Every kind of hidden markup begins with a fixed text of its own.
  unfold afterHidden? at found
  split at found
  · rename_i opened
    have := dropFolded?_length opened
    have := afterFolded?_length found
    simp at *
    omega
  · split at found
    · rename_i opened
      have := dropFolded?_length opened
      have := afterFolded?_length found
      simp at *
      omega
    · -- A script is read on behind its name.
      obtain ⟨middle, opened, closed⟩ := Option.bind_eq_some_iff.mp found
      have := dropFolded?_length opened
      have := afterScript?_length closed
      simp at *
      omega

/-- The page without its comments, CDATA sections and script elements. -/
def strip (page : Text) : Text :=
  match page with
  | [] => []
  | c :: rest =>
    match _hidden : afterHidden? (c :: rest) with
    -- What is behind hidden markup may be hidden too.
    | some after => strip after
    | none => c :: strip rest
termination_by page.length
decreasing_by
  · exact afterHidden?_length _hidden
  · simp

end RelyingParty.Html
