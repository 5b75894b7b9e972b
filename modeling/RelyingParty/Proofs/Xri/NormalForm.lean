import RelyingParty.Proofs.Uri.Escape
import RelyingParty.Proofs.Url.Escape
import RelyingParty.Proofs.Xri.CrossReference

/-! The URI-normal form of an XRI is the XRI with some of its octets in percent triplets. -/

namespace RelyingParty.Xri

open Text (percentOctet utf8)

/-- The characters that delimit the parts of URIs. -/
def delimiters : List Char := ['/', '?', '#']

/-- A delimiter is one of three. -/
theorem mem_delimiters_iff {mark : Char} :
    mark ∈ delimiters ↔ mark = '/' ∨ mark = '?' ∨ mark = '#' := by
  simp [delimiters]

/-- A text that begins at a depth of cross-references, as the URI-normal form has it. -/
def written (depth : Nat) (text : Text) : Text := iriToUri (escapeFrom depth text)

/-- Whether a character at a depth of cross-references is written in triplets: a percent sign, a
delimiter inside of parentheses, and all that is not ASCII. -/
def isHidden (depth : Nat) (c : Char) : Bool :=
  c = '%' || (depth ≠ 0 && delimiters.contains c) || 0x80 ≤ c.toNat

/-- A character is written in the triplets of its octets or as it is. -/
theorem iriToUri_escapeChar (depth : Nat) (c : Char) :
    iriToUri (escapeChar depth c) =
      if isHidden depth c then (utf8 [c]).flatMap percentOctet else [c] := by
  -- The percent sign and the delimiters are four characters, of which each is tried.
  by_cases percent : c = '%'
  · subst percent
    rfl
  by_cases delimits : c ∈ delimiters
  · cases depth with
    | zero => rcases mem_delimiters_iff.mp delimits with rfl | rfl | rfl <;> rfl
    | succ depth => rcases mem_delimiters_iff.mp delimits with rfl | rfl | rfl <;> rfl
  · -- Any other character is hidden only if it is not ASCII.
    have other : escapeChar depth c = [c] := by
      rw [mem_delimiters_iff, not_or, not_or] at delimits
      simp [escapeChar, percent, delimits]
    have hidden : isHidden depth c = decide (0x80 ≤ c.toNat) := by
      simp [isHidden, percent, delimits]
    rw [other, hidden]
    by_cases ascii : c.toNat < 0x80
    · simp [iriToUri, uriChar, ascii, Nat.not_le.mpr ascii]
    · simp [iriToUri, uriChar, utf8, ascii, Nat.not_lt.mp ascii]

/-- A text is written character by character, each at its own depth. -/
theorem written_cons (depth : Nat) (c : Char) (rest : Text) :
    written depth (c :: rest) =
      iriToUri (escapeChar depth c) ++ written (depthAfter depth c) rest := by
  -- The escaped character is encoded together with what follows it.
  rw [written, escapeFrom, iriToUri, List.flatMap_append]
  rfl

/-- A text is written in two parts, the second one at the depth behind the first. -/
theorem written_append (depth : Nat) (front back : Text) :
    written depth (front ++ back) =
      written depth front ++ written (depthBehind depth front) back := by
  -- By induction on the first part, along the depth behind each character.
  induction front generalizing depth with
  | nil => rfl
  | cons c front ih =>
    rw [List.cons_append, written_cons, written_cons, ih, List.append_assoc]
    rfl

/-- The octets of a text are read back from what is written, at any depth. -/
theorem unescape_written (depth : Nat) (text : Text) :
    Url.unescape (written depth text) = utf8 text := by
  induction text generalizing depth with
  | nil => rfl
  | cons c rest ih =>
    have whole : utf8 (c :: rest) = utf8 [c] ++ utf8 rest := Text.utf8_append [c] rest
    rw [written_cons, iriToUri_escapeChar, whole, ← ih (depthAfter depth c)]
    split
    · exact Url.unescape_percentOctets _ _
    · -- What is not hidden is no percent sign, so that no triplet begins there.
      rename_i shown
      have plain : c ≠ '%' := by
        rintro rfl
        exact shown rfl
      exact Url.unescape_cons plain _

/-- A written character belongs to a triplet, or it is one of the text that is not hidden. -/
theorem exists_of_mem_written {depth : Nat} {text : Text} {c : Char}
    (inside : c ∈ written depth text) :
    (c = '%' ∨ (Text.digitValue? 16 c).isSome = true) ∨
      ∃ front back, text = front ++ c :: back ∧ isHidden (depthBehind depth front) c = false := by
  induction text generalizing depth with
  | nil => cases inside
  | cons d rest ih =>
    rw [written_cons, iriToUri_escapeChar] at inside
    rcases List.mem_append.mp inside with first | later
    · -- It is written for the first character, in triplets or as it is.
      split at first
      · obtain ⟨octet, _, triplet⟩ := List.mem_flatMap.mp first
        exact .inl (Url.digit_of_mem_percentOctet triplet)
      · rename_i shown
        rw [List.mem_singleton] at first
        subst first
        exact .inr ⟨[], rest, rfl, Bool.eq_false_iff.mpr shown⟩
    · -- The depth behind the first character is the one the rest is written at.
      refine (ih later).imp_right ?_
      rintro ⟨front, back, rfl, shown⟩
      exact ⟨d :: front, back, rfl, shown⟩

/-- Only ASCII characters are written. -/
theorem toNat_lt_of_mem_written {depth : Nat} {text : Text} {c : Char}
    (inside : c ∈ written depth text) : c.toNat < 0x80 := by
  -- What is written is a percent sign, a digit of a triplet, or a character that is not hidden.
  rcases exists_of_mem_written inside with (rfl | digit) | ⟨_, _, _, shown⟩
  · decide
  · obtain ⟨value, digit⟩ := Option.isSome_iff_exists.mp digit
    exact Uri.toNat_lt_of_digitValue? digit
  · simp [isHidden] at shown
    exact shown.2

/-- A delimiter is written only where one stands outside of all parentheses. -/
theorem exists_delimiter_of_mem_written {depth : Nat} {text : Text} {mark : Char}
    (delimits : mark ∈ delimiters) (inside : mark ∈ written depth text) :
    ∃ front back, text = front ++ mark :: back ∧ depthBehind depth front = 0 := by
  rcases exists_of_mem_written inside with triplet | ⟨front, back, whole, shown⟩
  · -- A triplet has no delimiter in it.
    rcases mem_delimiters_iff.mp delimits with rfl | rfl | rfl <;> exact absurd triplet (by decide)
  · simp [isHidden, delimits] at shown
    exact ⟨front, back, whole, shown.1.2⟩

/-- The scheme that is put in front of an XRI, if any, opens no parenthesis. -/
theorem exists_withScheme (xri : Text) :
    ∃ lead, withScheme xri = lead ++ xri ∧ (∀ c ∈ lead, c ∈ scheme) ∧
      ∀ front, depthBehind 0 (lead ++ front) = depthBehind 0 front := by
  -- Either nothing is put in front or the scheme, which has no parenthesis.
  unfold withScheme
  split
  · exact ⟨[], rfl, by simp, fun front => rfl⟩
  · exact ⟨scheme, rfl, fun c inside => inside, fun front => rfl⟩

/-- A delimiter is hidden exactly where a parenthesis is open in front of it. -/
theorem isHidden_delimiter_iff (front : Text) {mark : Char} (delimits : mark ∈ delimiters) :
    isHidden (depthBehind 0 front) mark = true ↔ LeavesOpen front := by
  -- Delimiters are ASCII and no percent sign, so only the depth can hide them.
  have plain : mark ≠ '%' ∧ mark.toNat < 0x80 := by
    rcases mem_delimiters_iff.mp delimits with rfl | rfl | rfl <;> decide
  obtain ⟨percent, ascii⟩ := plain
  rw [leavesOpen_iff, Nat.pos_iff_ne_zero]
  simp [isHidden, delimits, percent, Nat.not_le.mpr ascii]

/-- A delimiter of an XRI has its place in the URI-normal form: between what its front and its back
are written as it stands in a triplet or as it is. -/
theorem exists_uriNormal_eq {xri front back : Text} {mark : Char}
    (whole : xri = front ++ mark :: back) :
    ∃ before after,
      uriNormal xri = before ++ (if isHidden (depthBehind 0 front) mark then
        (utf8 [mark]).flatMap percentOctet else [mark]) ++ after ∧
      Url.unescape before ++ utf8 (mark :: back) = utf8 (withScheme xri) ∧
      Url.unescape after = utf8 back := by
  obtain ⟨lead, led, _, depth⟩ := exists_withScheme xri
  -- The scheme in front leaves the depth at the delimiter as it is.
  refine ⟨written 0 (lead ++ front), written (depthAfter (depthBehind 0 front) mark) back, ?_, ?_,
    unescape_written _ _⟩
  · show written 0 (withScheme xri) = _
    rw [led, whole, ← List.append_assoc, written_append, depth, written_cons, iriToUri_escapeChar,
      List.append_assoc]
  · rw [unescape_written, ← Text.utf8_append, led, whole, List.append_assoc]

/-- A delimiter that the scheme does not have is in the URI-normal form only if one stands outside
of all parentheses. -/
theorem not_mem_uriNormal {xri : Text} {mark : Char} (delimits : mark ∈ delimiters)
    (apart : mark ∉ scheme)
    (inside : ∀ front back, xri = front ++ mark :: back → LeavesOpen front) :
    mark ∉ uriNormal xri := by
  intro shown
  obtain ⟨front, back, whole, outside⟩ := exists_delimiter_of_mem_written delimits shown
  obtain ⟨lead, led, schemed, depth⟩ := exists_withScheme xri
  have absent : mark ∉ lead := fun member => apart (schemed mark member)
  -- The delimiter is not in the scheme, so the XRI has it.
  obtain ⟨own, rfl, same⟩ : ∃ own, front = lead ++ own ∧ xri = own ++ mark :: back := by
    rw [led] at whole
    rcases List.append_eq_append_iff.mp whole with ⟨own, rfl, same⟩ | ⟨more, led', same⟩
    · exact ⟨own, rfl, same⟩
    · cases more with
      | nil => exact ⟨[], by simpa using led'.symm, by simpa using same.symm⟩
      | cons c more =>
        obtain ⟨rfl, _⟩ := List.cons.inj same
        exact absurd (led' ▸ by simp) absent
  -- What stands in front of it leaves a parenthesis open, and what was shown stands outside.
  have opened := leavesOpen_iff.mp (inside own back same)
  rw [depth] at outside
  omega

/-- The URI-normal form of an XRI is made of ASCII characters, and its octets are those of the XRI
with its scheme, so that no two of these have one form. Every delimiter of the XRI has its place in
the form, and stands there in a triplet when a parenthesis is open in front of it, and as it is when
none is. -/
theorem uriNormal_faithful (xri : Text) :
    (∀ c ∈ uriNormal xri, c.toNat < 0x80) ∧
      Url.unescape (uriNormal xri) = utf8 (withScheme xri) ∧
      (∀ other, uriNormal other = uriNormal xri → withScheme other = withScheme xri) ∧
      ∀ front mark back, xri = front ++ mark :: back → mark ∈ delimiters →
        ∃ before after,
          Url.unescape before ++ utf8 (mark :: back) = utf8 (withScheme xri) ∧
          Url.unescape after = utf8 back ∧
          (LeavesOpen front →
            uriNormal xri = before ++ (utf8 [mark]).flatMap percentOctet ++ after) ∧
          (¬LeavesOpen front → uriNormal xri = before ++ mark :: after) := by
  have decoded : ∀ xri, Url.unescape (uriNormal xri) = utf8 (withScheme xri) :=
    fun xri => unescape_written 0 (withScheme xri)
  refine ⟨fun c inside => toNat_lt_of_mem_written inside, decoded xri, fun other same => ?_,
    fun front mark back whole delimits => ?_⟩
  · -- One form has the octets of one text only.
    refine Text.utf8_injective ?_
    rw [← decoded, ← decoded, same]
  · obtain ⟨before, after, form, read, read'⟩ := exists_uriNormal_eq whole
    have hidden := isHidden_delimiter_iff front delimits
    refine ⟨before, after, read, read', fun inside => ?_, fun outside => ?_⟩
    · rw [form, if_pos (hidden.mpr inside)]
    · rw [form, if_neg (mt hidden.mp outside), List.append_assoc]
      rfl

/-- The slash inside of the parentheses is hidden and the one behind them is not, in an XRI whose
percent sign and letter beyond ASCII are written in triplets. -/
theorem uriNormal_faithful_nested :
    uriNormal "@é%2F(a/b)/c" = "xri://@%C3%A9%252F(a%2Fb)/c" ∧
      Url.unescape "xri://@%C3%A9%252F(a%2Fb)/c" = utf8 "xri://@é%2F(a/b)/c" := by
  -- The form is evaluated, and the decoding of it is the general statement.
  have form : uriNormal "@é%2F(a/b)/c" = "xri://@%C3%A9%252F(a%2Fb)/c" := by decide +kernel
  have schemed : withScheme "@é%2F(a/b)/c" = "xri://@é%2F(a/b)/c" := rfl
  have faithful := uriNormal_faithful "@é%2F(a/b)/c"
  rw [form, schemed] at faithful
  exact ⟨form, faithful.2.1⟩

end RelyingParty.Xri
