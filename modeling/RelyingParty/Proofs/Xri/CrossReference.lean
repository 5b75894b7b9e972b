import Mathlib.Data.List.TakeWhile
import RelyingParty.Proofs.Text
import RelyingParty.Xri

/-! Parentheses of an XRI that are open at a place, and the root authority of an XRI that begins
with a cross-reference. -/

namespace RelyingParty.Xri

/-- Whether one of `depth` parentheses that are open in front of a text is open all through it: no
part at its start closes that many more than it opens. -/
def StaysOpen (depth : Nat) (text : Text) : Prop :=
  ∀ part, part <+: text → part.count ')' < depth + part.count '('

/-- Whether a parenthesis is open at the end of a text: it opens one that stays open. -/
def LeavesOpen (text : Text) : Prop :=
  ∃ front inside, text = front ++ '(' :: inside ∧ StaysOpen 1 inside

/-- Whether a text is a cross-reference: the parenthesis that opens it is closed at its end, and
nowhere before. -/
def IsCrossReference (text : Text) : Prop :=
  ∃ inside, text = '(' :: (inside ++ [')']) ∧ StaysOpen 1 inside ∧
    inside.count ')' = inside.count '('

/-- In front of a text without parentheses nothing has to be closed. -/
theorem staysOpen_nil_iff {depth : Nat} : StaysOpen depth [] ↔ 0 < depth := by
  -- The only part of it is empty.
  constructor
  · intro stays
    exact stays [] List.nil_prefix
  · intro open' part leads
    rw [List.prefix_nil.mp leads]
    simpa using open'

/-- A character changes the depth as the numbers of parentheses say, unless it closes one where
none is open. -/
theorem depthAfter_add_count {depth : Nat} (open' : 0 < depth) (c : Char) :
    depthAfter depth c + [c].count ')' = depth + [c].count '(' := by
  -- An opening, a closing, or no parenthesis at all.
  unfold depthAfter
  split
  · rename_i opens
    simp [opens]
  split
  · rename_i closes
    simp [closes]
    omega
  · rename_i opens closes
    simp [opens, closes]

/-- Parentheses stay open behind a character when they do at the depth after it. -/
theorem staysOpen_cons_iff {depth : Nat} {c : Char} {rest : Text} :
    StaysOpen depth (c :: rest) ↔ 0 < depth ∧ StaysOpen (depthAfter depth c) rest := by
  have counts : ∀ (mark : Char) part, (c :: part).count mark = [c].count mark + part.count mark :=
    fun mark part => by rw [← List.singleton_append, List.count_append]
  constructor
  · intro stays
    -- The empty part and the longer parts are both among those that stay open.
    have open' : 0 < depth := stays [] List.nil_prefix
    refine ⟨open', fun part leads => ?_⟩
    have longer := stays (c :: part) (List.cons_prefix_cons.mpr ⟨rfl, leads⟩)
    have depths := depthAfter_add_count open' c
    rw [counts ')' part, counts '(' part] at longer
    omega
  · -- A part at the start is empty, or it is the character and a part of what is behind it.
    rintro ⟨open', stays⟩ part leads
    cases part with
    | nil => simpa using open'
    | cons d part =>
      obtain ⟨rfl, shorter⟩ := List.cons_prefix_cons.mp leads
      have within := stays part shorter
      have depths := depthAfter_add_count open' d
      rw [counts ')' part, counts '(' part]
      omega

instance decidableStaysOpen : (depth : Nat) → (text : Text) → Decidable (StaysOpen depth text)
  | _, [] => decidable_of_iff _ staysOpen_nil_iff.symm
  | depth, c :: rest =>
    have := decidableStaysOpen (depthAfter depth c) rest
    decidable_of_iff _ staysOpen_cons_iff.symm

/-- What stays open at some depth stays open at a greater one. -/
theorem StaysOpen.mono {depth deeper : Nat} {text : Text} (below : depth ≤ deeper)
    (stays : StaysOpen depth text) : StaysOpen deeper text := fun part leads => by
  have within := stays part leads
  omega

/-- The depth behind a text. -/
def depthBehind (depth : Nat) (text : Text) : Nat := text.foldl depthAfter depth

/-- While a parenthesis stays open the depth is that of the numbers of parentheses. -/
theorem StaysOpen.depthBehind_add_count {depth : Nat} {text : Text}
    (stays : StaysOpen depth text) :
    depthBehind depth text + text.count ')' = depth + text.count '(' := by
  -- One is open in front of each character, so that none closes a parenthesis that is not there.
  induction text generalizing depth with
  | nil => rfl
  | cons c rest ih =>
    obtain ⟨open', stays⟩ := staysOpen_cons_iff.mp stays
    have rest' := ih stays
    have depths := depthAfter_add_count open' c
    have closes := List.count_cons (a := ')') (b := c) (l := rest)
    have opens := List.count_cons (a := '(') (b := c) (l := rest)
    rw [List.count_singleton, List.count_singleton] at depths
    have next : depthBehind depth (c :: rest) = depthBehind (depthAfter depth c) rest := rfl
    omega

/-- A parenthesis is open at the end of a text when its first character opens one that stays open,
or when the rest of it leaves one open. -/
theorem leavesOpen_cons_iff {c : Char} {rest : Text} :
    LeavesOpen (c :: rest) ↔ (c = '(' ∧ StaysOpen 1 rest) ∨ LeavesOpen rest := by
  -- What stands in front of the parenthesis is empty, or it begins with this character.
  constructor
  · rintro ⟨front, inside, whole, stays⟩
    cases front with
    | nil =>
      obtain ⟨rfl, rfl⟩ := List.cons.inj whole
      exact .inl ⟨rfl, stays⟩
    | cons d front => exact .inr ⟨front, inside, (List.cons.inj whole).2, stays⟩
  · rintro (⟨rfl, stays⟩ | ⟨front, inside, rfl, stays⟩)
    · exact ⟨[], rest, rfl, stays⟩
    · exact ⟨c :: front, inside, rfl, stays⟩

/-- The depth behind a text is positive when a parenthesis in front of it stays open, or when the
text leaves one open. -/
theorem depthBehind_pos_iff {depth : Nat} {text : Text} :
    0 < depthBehind depth text ↔ StaysOpen depth text ∨ LeavesOpen text := by
  -- The depth never falls below zero, so it says nothing about parentheses that are closed in
  -- excess. The induction goes over all depths, as each character has its own.
  induction text generalizing depth with
  | nil =>
    have none : ¬LeavesOpen [] := by
      rintro ⟨front, inside, whole, _⟩
      simp at whole
    simp [depthBehind, none, staysOpen_nil_iff]
  | cons c rest ih =>
    have next : depthBehind depth (c :: rest) = depthBehind (depthAfter depth c) rest := rfl
    rw [next, ih, staysOpen_cons_iff, leavesOpen_cons_iff]
    constructor
    · rintro (stays | later)
      · rcases Nat.eq_zero_or_pos depth with rfl | open'
        · -- Where none was open, one is open only behind a parenthesis that opens it.
          have opens : c = '(' := by
            have deeper : 0 < depthAfter 0 c := stays [] List.nil_prefix
            by_contra other
            simp [depthAfter, other] at deeper
          subst opens
          exact .inr (.inl ⟨rfl, stays⟩)
        · exact .inl ⟨open', stays⟩
      · exact .inr (.inr later)
    · rintro (⟨_, stays⟩ | ⟨rfl, stays⟩ | later)
      · exact .inl stays
      · exact .inl (stays.mono (Nat.le_add_left 1 depth))
      · exact .inr later

/-- Behind a text of depth zero no parenthesis is open, and behind any other one is. -/
theorem leavesOpen_iff {text : Text} : LeavesOpen text ↔ 0 < depthBehind 0 text := by
  -- At depth zero nothing is open to stay so.
  have closed : ¬StaysOpen 0 text := fun stays => Nat.lt_irrefl 0 (stays [] List.nil_prefix)
  simp [depthBehind_pos_iff, closed]

/-- The search for the end of a cross-reference passes over what keeps it open. -/
theorem crossReference_append {depth : Nat} {text : Text} (stays : StaysOpen depth text)
    (rest : Text) :
    crossReference depth (text ++ rest) =
      text ++ crossReference (depthBehind depth text) rest := by
  induction text generalizing depth with
  | nil => rfl
  | cons c text ih =>
    obtain ⟨open', stays⟩ := staysOpen_cons_iff.mp stays
    have goes : ¬(c = ')' ∧ depth ≤ 1) := by
      rintro ⟨rfl, last⟩
      -- A parenthesis that closes the last open one leaves none open.
      have deeper : 0 < depthAfter depth ')' := stays [] List.nil_prefix
      have closes : depthAfter depth ')' = depth - 1 := rfl
      omega
    rw [List.cons_append, crossReference, if_neg goes, ih stays]
    rfl

/-- A cross-reference ends where its parenthesis is closed. -/
theorem IsCrossReference.crossReference_append {reference : Text}
    (whole : IsCrossReference reference) (rest : Text) :
    crossReference 0 (reference ++ rest) = reference := by
  obtain ⟨inside, rfl, stays, closed⟩ := whole
  -- Only the first parenthesis is open behind what is inside, so the next one closes it.
  have depth : depthBehind 1 inside = 1 := by
    have counts := stays.depthBehind_add_count
    omega
  have read := Xri.crossReference_append stays (')' :: rest)
  rw [depth] at read
  simpa [crossReference, depthAfter] using read

/-- A cross-reference that is not closed is read to the end of the text. -/
theorem StaysOpen.crossReference_eq {text : Text} (stays : StaysOpen 1 text) :
    crossReference 0 ('(' :: text) = '(' :: text := by
  -- Nothing follows the text that could close it.
  have read := Xri.crossReference_append stays []
  rw [List.append_nil] at read
  simpa [crossReference, depthAfter] using read

/-- The root authority of an XRI that begins with a parenthesis is looked for in what stands before
its first slash. -/
theorem rootAuthority_paren (text : Text) :
    rootAuthority ('(' :: text) =
      withScheme (crossReference 0 ('(' :: Text.before '/' text)) := rfl

/-- The root authority of an XRI that begins with a cross-reference is what stands before the first
slash of it. -/
theorem rootAuthority_crossReference {reference : Text} (whole : IsCrossReference reference)
    (rest : Text) :
    rootAuthority (reference ++ rest) = scheme ++ Text.before '/' reference := by
  obtain ⟨inside, rfl, stays, closed⟩ := id whole
  have stops : decide ('/' ≠ '/') = false := by decide
  rw [List.cons_append, rootAuthority_paren, List.append_assoc, List.singleton_append]
  by_cases slash : '/' ∈ inside
  · -- The slash is inside of the parentheses, and none of them is closed before it.
    have front : ∀ more, Text.before '/' (inside ++ more) = Text.before '/' inside :=
      Text.takeWhile_append_of_mem stops slash
    have stays' : StaysOpen 1 (Text.before '/' inside) :=
      fun part leads => stays part (leads.trans (List.takeWhile_prefix _))
    rw [front, stays'.crossReference_eq]
    show _ = scheme ++ '(' :: Text.before '/' (inside ++ [')'])
    rw [front]
    rfl
  · -- The whole cross-reference stands before the slash, and what is behind it is not read.
    have plain : ∀ c ∈ inside, decide (c ≠ '/') = true :=
      fun c member => decide_eq_true fun same => slash (same ▸ member)
    have front : ∀ more, Text.before '/' (inside ++ ')' :: more) =
        inside ++ ')' :: Text.before '/' more := by
      intro more
      rw [Text.before, List.takeWhile_append_of_pos plain]
      rfl
    have read := whole.crossReference_append (Text.before '/' rest)
    rw [List.cons_append, List.append_assoc, List.singleton_append] at read
    rw [front, read]
    show _ = scheme ++ '(' :: Text.before '/' (inside ++ [')'])
    rw [front]
    rfl

/-- The root authority of an XRI that begins with a cross-reference is the whole of it exactly when
no slash is inside; two of them have one root authority exactly when they agree up to their first
slashes. -/
theorem rootAuthority_whole_iff {reference : Text} (whole : IsCrossReference reference)
    (rest : Text) :
    rootAuthority (reference ++ rest) = scheme ++ Text.before '/' reference ∧
      (rootAuthority (reference ++ rest) = scheme ++ reference ↔ '/' ∉ reference) ∧
      ∀ other rest', IsCrossReference other →
        (rootAuthority (reference ++ rest) = rootAuthority (other ++ rest') ↔
          Text.before '/' reference = Text.before '/' other) := by
  -- All three compare what stands in front of the first slash.
  refine ⟨rootAuthority_crossReference whole rest, ?_, fun other rest' whole' => ?_⟩
  · rw [rootAuthority_crossReference whole, List.append_cancel_left_eq, Text.before,
      List.takeWhile_eq_self_iff]
    constructor
    · intro all inside
      simpa using all '/' inside
    · intro absent c inside
      exact decide_eq_true fun same => absent (same ▸ inside)
  · rw [rootAuthority_crossReference whole, rootAuthority_crossReference whole',
      List.append_cancel_left_eq]

/-- Two cross-references with a slash inside have one root authority, which is neither of them. -/
theorem rootAuthority_whole_nested :
    rootAuthority "(a(b)/c)*d" = "xri://(a(b)" ∧
      rootAuthority "(a(b)/c)*d" = rootAuthority "(a(b)/e!f)" ∧
      rootAuthority "(a(b)c)*d/e" = "xri://(a(b)c)" := by
  have slashed : IsCrossReference "(a(b)/c)" := ⟨"a(b)/c", rfl, by decide, rfl⟩
  have slashed' : IsCrossReference "(a(b)/e!f)" := ⟨"a(b)/e!f", rfl, by decide, rfl⟩
  have plain : IsCrossReference "(a(b)c)" := ⟨"a(b)c", rfl, by decide, rfl⟩
  -- Each of the three equations is a part of the theorem for one of these references.
  have cut := rootAuthority_whole_iff slashed "*d"
  have kept := rootAuthority_whole_iff plain "*d/e"
  refine ⟨cut.1, (cut.2.2 _ [] slashed').mpr rfl, kept.2.1.mpr (by decide)⟩

end RelyingParty.Xri
