import RelyingParty.Proofs.Uri.Canonical

/-! The two characters behind every percent sign of a text, before it is brought into canonical form
and afterwards. -/

namespace RelyingParty.Uri

/-- Whether every percent sign of a text has two characters behind it that are allowed there. -/
def EachTriplet (allowed : Char → Char → Prop) (text : Text) : Prop :=
  ∀ front back, text = front ++ '%' :: back →
    ∃ high low rest, back = high :: low :: rest ∧ allowed high low

variable {allowed other : Char → Char → Prop} {text front back rest : Text} {c high low : Char}

/-- What is allowed behind a percent sign may be widened. -/
theorem EachTriplet.mono (wider : ∀ high low, allowed high low → other high low)
    (each : EachTriplet allowed text) : EachTriplet other text := by
  -- The triplets are the same, and each of them is still allowed.
  intro front back same
  obtain ⟨high, low, rest, behind, known⟩ := each front back same
  exact ⟨high, low, rest, behind, wider high low known⟩

/-- A text without percent signs has no triplets. -/
theorem eachTriplet_of_no_percent (absent : '%' ∉ text) : EachTriplet allowed text := by
  -- There is no percent sign to look behind.
  intro front back same
  exact absurd (same ▸ by simp) absent

/-- A character other than a percent sign begins no triplet. -/
theorem eachTriplet_cons (plain : c ≠ '%') :
    EachTriplet allowed (c :: rest) ↔ EachTriplet allowed rest := by
  constructor
  · -- What is in front of a percent sign only becomes longer.
    intro each front back same
    exact each (c :: front) back (by rw [same, List.cons_append])
  · intro each front back same
    -- The percent sign is not the first character, so it is one of the rest.
    cases front with
    | nil => exact absurd (List.cons.inj same).1 plain
    | cons d front => exact each front back (List.cons.inj same).2

/-- A triplet without a percent sign in it is followed by others. -/
theorem eachTriplet_triplet (plain : high ≠ '%') (plain' : low ≠ '%') :
    EachTriplet allowed ('%' :: high :: low :: rest) ↔
      allowed high low ∧ EachTriplet allowed rest := by
  -- Neither of the two characters begins a triplet of its own.
  have digits : EachTriplet allowed rest ↔ EachTriplet allowed (high :: low :: rest) := by
    rw [eachTriplet_cons plain, eachTriplet_cons plain']
  rw [digits]
  constructor
  · intro each
    obtain ⟨high', low', rest', behind, known⟩ := each [] _ rfl
    cases behind
    refine ⟨known, fun front back same => each ('%' :: front) back ?_⟩
    rw [same, List.cons_append]
  · rintro ⟨known, each⟩ front back same
    cases front with
    | nil =>
      cases same
      exact ⟨high, low, rest, rfl, known⟩
    | cons d front => exact each front back (List.cons.inj same).2

/-- The triplets of two texts are those of both together. -/
theorem EachTriplet.append (first : EachTriplet allowed front) (last : EachTriplet allowed back) :
    EachTriplet allowed (front ++ back) := by
  intro before after same
  rcases List.append_eq_append_iff.mp same with ⟨more, _, parts⟩ | ⟨more, parts, rest⟩
  · exact last more after parts
  · -- A percent sign of the first text has its triplet there, unless it is one of the second.
    cases more with
    | nil => exact last [] after (by simpa using rest.symm)
    | cons d more =>
      obtain ⟨rfl, behind⟩ := List.cons.inj rest
      obtain ⟨high, low, more, rfl, known⟩ := first before more parts
      exact ⟨high, low, more ++ back, by simp [behind], known⟩

/-- A triplet that is read has no percent sign in it. -/
theorem ne_percent_of_tripletValue? {value : Nat} (read : tripletValue? high low = some value) :
    high ≠ '%' ∧ low ≠ '%' := by
  -- A percent sign is neither a digit nor a plus sign.
  obtain ⟨first, units, last⟩ := digits_of_tripletValue? read
  have percent : Text.digitValue? 16 '%' = none := by decide
  refine ⟨?_, ?_⟩
  · rintro rfl
    rcases first with plus | ⟨sixteens, digit⟩
    · exact absurd plus (by decide)
    · simp [percent] at digit
  · rintro rfl
    simp [percent] at last

/-- A text has a canonical form exactly when every percent sign begins a triplet that is read. -/
theorem isSome_canonicalEscapes?_iff : (canonicalEscapes? text).isSome = true ↔
    EachTriplet (fun high low => (tripletValue? high low).isSome = true) text := by
  fun_induction canonicalEscapes? text with
  | case1 => exact iff_of_true rfl (eachTriplet_of_no_percent List.not_mem_nil)
  | case2 high low rest ih =>
    cases number : tripletValue? high low with
    | none =>
      -- The first triplet is not read.
      refine iff_of_false (by simp [canonicalTriplet?, number]) fun each => ?_
      obtain ⟨high', low', rest', behind, known⟩ := each [] _ rfl
      cases behind
      simp [number] at known
    | some value =>
      obtain ⟨plain, plain'⟩ := ne_percent_of_tripletValue? number
      rw [eachTriplet_triplet plain plain', ← ih]
      cases canonicalEscapes? rest <;> simp [canonicalTriplet?, number]
  | case3 rest short =>
    -- Fewer than two characters are left behind the percent sign.
    refine iff_of_false (by simp) fun each => ?_
    obtain ⟨high, low, rest', behind, _⟩ := each [] rest rfl
    exact short high low rest' rfl behind
  | case4 c rest _ plain ih => rw [eachTriplet_cons plain, ← ih, Option.isSome_map]

/-- Every percent sign of a canonical form begins a triplet that stays as it is. -/
theorem eachTriplet_of_canonicalEscapes? {canonical : Text}
    (read : canonicalEscapes? text = some canonical) :
    EachTriplet (fun high low => canonicalTriplet? high low = some ['%', high, low]) canonical := by
  rw [canonicalEscapes?_eq_some_iff] at read
  induction read with
  | nil => exact eachTriplet_of_no_percent List.not_mem_nil
  | triplet part _ ih =>
    refine .append ?_ ih
    -- A triplet became an unreserved character, or it was brought into upper case.
    rcases canonicalTriplet?_toUpper part with ⟨c, rfl, unreserved⟩ | ⟨rfl, upper⟩
    · have plain : c ≠ '%' := by
        rintro rfl
        cases unreserved
      exact (eachTriplet_cons plain).mpr (eachTriplet_of_no_percent List.not_mem_nil)
    · obtain ⟨value, number, _⟩ := Option.map_eq_some_iff.mp upper
      obtain ⟨plain, plain'⟩ := ne_percent_of_tripletValue? number
      exact (eachTriplet_triplet plain plain').mpr
        ⟨upper, eachTriplet_of_no_percent List.not_mem_nil⟩
  | other plain _ ih => exact (eachTriplet_cons plain).mpr ih

end RelyingParty.Uri
