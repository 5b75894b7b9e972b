import RelyingParty.Proofs.Text
import RelyingParty.Uri

/-! The case of ASCII letters, and what is cut, counted and read without regard to it. -/

namespace RelyingParty.Text

/-- What holds of every ASCII character and its lower case holds of all characters, when it holds of
those that are their own lower case. -/
theorem toLower_induction {p : Char → Char → Prop} (same : ∀ c, p c c)
    (tried : ∀ n < 128, p (Char.ofNat n) (Char.ofNat n).toLower) (c : Char) : p c c.toLower := by
  by_cases ascii : c.toNat < 128
  · have := tried c.toNat ascii
    rwa [Char.ofNat_toNat] at this
  · -- Letters with another lower case are ASCII characters.
    have other : ¬(c.val ≥ 'A'.val ∧ c.val ≤ 'Z'.val) := by
      rintro ⟨_, upper⟩
      have bound : c.toNat ≤ 'Z'.toNat := upper
      have small : 'Z'.toNat < 128 := by decide
      omega
    have own : c.toLower = c := dif_neg other
    rw [own]
    exact same c

/-- Letters and digits are ASCII characters. -/
theorem toNat_lt_of_isAlphanum {c : Char} (inside : c.isAlphanum = true) : c.toNat < 128 := by
  -- All three kinds end below the limit of ASCII.
  have below : ∀ last : Char, c ≤ last → last.toNat < 128 → c.toNat < 128 :=
    fun last bound small => Nat.lt_of_le_of_lt bound small
  have kinds : (c.isUpper || c.isLower || c.isDigit) = true := inside
  simp only [Bool.or_eq_true] at kinds
  rcases kinds with (upper | lower) | digit
  · exact below 'Z' (of_decide_eq_true upper).2 (by decide)
  · exact below 'z' (of_decide_eq_true (Bool.and_eq_true_iff.mp lower).2) (by decide)
  · exact below '9' (of_decide_eq_true (Bool.and_eq_true_iff.mp digit).2) (by decide)

/-- Printable characters are printable in lower case. -/
theorem isGraphic_toLower (c : Char) : Uri.isGraphic c.toLower = Uri.isGraphic c :=
  toLower_induction (p := fun c d => Uri.isGraphic d = Uri.isGraphic c) (fun _ => rfl)
    (by decide +kernel) c

/-- A character in lower case stays as it is. -/
theorem toLower_toLower (c : Char) : c.toLower.toLower = c.toLower :=
  toLower_induction (p := fun c d => d.toLower = c.toLower) (fun _ => rfl) (by decide +kernel) c

/-- A character is a letter whatever its case. -/
theorem isAlpha_toLower (c : Char) : c.toLower.isAlpha = c.isAlpha :=
  toLower_induction (p := fun c d => d.isAlpha = c.isAlpha) (fun _ => rfl) (by decide +kernel) c

/-- The upper case of a character does not depend on its case. -/
theorem toUpper_toLower (c : Char) : c.toLower.toUpper = c.toUpper :=
  toLower_induction (p := fun c d => d.toUpper = c.toUpper) (fun _ => rfl) (by decide +kernel) c

/-- The lower case of a character does not depend on its case. -/
theorem toLower_toUpper (c : Char) : c.toUpper.toLower = c.toLower := by
  by_cases ascii : c.toNat < 128
  · have tried : ∀ n < 128, (Char.ofNat n).toUpper.toLower = (Char.ofNat n).toLower := by
      decide +kernel
    have := tried c.toNat ascii
    rwa [Char.ofNat_toNat] at this
  · -- Letters with another upper case are ASCII characters.
    have other : ¬(c.val ≥ 'a'.val ∧ c.val ≤ 'z'.val) := by
      rintro ⟨_, lower⟩
      have bound : c.toNat ≤ 'z'.toNat := lower
      have small : 'z'.toNat < 128 := by decide
      omega
    have own : c.toUpper = c := dif_neg other
    rw [own]

/-- A digit has its value in either case. -/
theorem digitValue?_toLower {base : Nat} (known : base ∈ [10, 16]) (c : Char) :
    digitValue? base c.toLower = digitValue? base c :=
  toLower_induction (p := fun c d => ∀ base ∈ [10, 16], digitValue? base d = digitValue? base c)
    (fun _ _ _ => rfl) (by decide +kernel) c base known

/-- Only letters have another lower case, which is a letter too. -/
theorem toLower_eq_iff {mark : Char} (plain : mark.isAlpha = false) (c : Char) :
    c.toLower = mark ↔ c = mark := by
  have letters : c = c.toLower ∨ c.isAlpha = true ∧ c.toLower.isAlpha = true :=
    toLower_induction (p := fun c d => c = d ∨ c.isAlpha = true ∧ d.isAlpha = true)
      (fun _ => .inl rfl) (by decide +kernel) c
  rcases letters with same | ⟨upper, lower⟩
  · rw [← same]
  · -- The mark is no letter, and both sides are.
    constructor
    · rintro rfl
      rw [lower] at plain
      cases plain
    · rintro rfl
      rw [upper] at plain
      cases plain

/-- A text in lower case stays as it is. -/
theorem asciiLower_asciiLower (text : Text) : asciiLower (asciiLower text) = asciiLower text := by
  -- It is enough that each character in lower case stays as it is.
  rw [asciiLower, asciiLower, List.map_map]
  exact List.map_congr_left fun c _ => toLower_toLower c

/-- A character of a text is in all texts that differ in case alone, case aside. -/
theorem exists_of_asciiLower_eq {text text' : Text} (same : asciiLower text' = asciiLower text)
    {c : Char} (inside : c ∈ text') : ∃ d ∈ text, d.toLower = c.toLower := by
  -- The character is, in lower case, among those of the other text.
  have lower : c.toLower ∈ asciiLower text := by
    rw [← same]
    exact List.mem_map_of_mem inside
  exact List.mem_map.mp lower

/-- Lower case is taken part by part. -/
theorem asciiLower_append (front back : Text) :
    asciiLower (front ++ back) = asciiLower front ++ asciiLower back := List.map_append

/-- A mark that is no letter stands in a text whenever it does in lower case. -/
theorem mem_asciiLower_iff {mark : Char} (plain : mark.isAlpha = false) {text : Text} :
    mark ∈ asciiLower text ↔ mark ∈ text := by
  simp [asciiLower, toLower_eq_iff plain]

/-- A text begins with a mark that is no letter whenever it does in lower case. -/
theorem head?_asciiLower_eq_some_iff {mark : Char} (plain : mark.isAlpha = false) {text : Text} :
    (asciiLower text).head? = some mark ↔ text.head? = some mark := by
  cases text with
  | nil => rfl
  | cons c rest => simpa [asciiLower] using toLower_eq_iff plain c

/-- A text is cut at a mark that is no letter whatever its case, when the place of the cut is known
by one side of it having no other mark. -/
theorem cut_asciiLower {mark : Char} (plain : mark.isAlpha = false)
    {cut : Text → Option (Text × Text)} (side : Text × Text → Text)
    (missing : ∀ {text}, cut text = none ↔ mark ∉ text)
    (found : ∀ {text parts},
      cut text = some parts ↔ text = parts.1 ++ mark :: parts.2 ∧ mark ∉ side parts)
    (lower : ∀ parts, side (parts.map asciiLower asciiLower) = asciiLower (side parts))
    (text : Text) : cut (asciiLower text) = (cut text).map (Prod.map asciiLower asciiLower) := by
  cases split : cut text with
  | none => exact missing.mpr (mt (mem_asciiLower_iff plain).mp (missing.mp split))
  | some parts =>
    obtain ⟨rfl, absent⟩ := found.mp split
    -- The mark stays where it is, and no letter becomes another one.
    have same : mark.toLower = mark := (toLower_eq_iff plain mark).mpr rfl
    refine found.mpr ⟨?_, ?_⟩
    · simp [asciiLower, same]
    · rw [lower]
      exact mt (mem_asciiLower_iff plain).mp absent

/-- A text is cut at its first mark whatever its case. -/
theorem splitFirst_asciiLower {mark : Char} (plain : mark.isAlpha = false) (text : Text) :
    splitFirst mark (asciiLower text) =
      (splitFirst mark text).map fun parts => (asciiLower parts.1, asciiLower parts.2) :=
  cut_asciiLower plain Prod.fst splitFirst_eq_none_iff splitFirst_eq_some_iff (fun _ => rfl) text

/-- A text is cut at its last mark whatever its case. -/
theorem splitLast_asciiLower {mark : Char} (plain : mark.isAlpha = false) (text : Text) :
    splitLast mark (asciiLower text) =
      (splitLast mark text).map fun parts => (asciiLower parts.1, asciiLower parts.2) :=
  cut_asciiLower plain Prod.snd splitLast_eq_none_iff splitLast_eq_some_iff (fun _ => rfl) text

/-- Digits are read whatever their case. -/
theorem digitsFrom?_asciiLower {base : Nat} (known : base ∈ [10, 16]) (value : Nat) (text : Text) :
    digitsFrom? base value (asciiLower text) = digitsFrom? base value text := by
  -- The value so far is any, since each digit changes it.
  induction text generalizing value with
  | nil => rfl
  | cons c rest ih =>
    show digitsFrom? base value (c.toLower :: asciiLower rest) = _
    rw [digitsFrom?, digitsFrom?, digitValue?_toLower known]
    cases digitValue? base c with
    | none => rfl
    | some digit => exact ih _

/-- A bounded number is read whatever the case of its text. -/
theorem natBelow?_asciiLower (bound : Nat) (text : Text) :
    natBelow? bound (asciiLower text) = natBelow? bound text := by
  have whole : ∀ text, digits? 10 (asciiLower text) = digits? 10 text := by
    intro text
    cases text with
    | nil => rfl
    | cons c rest => exact digitsFrom?_asciiLower (by simp) 0 (c :: rest)
  by_cases plus : text.head? = some '+'
  · obtain ⟨rest, rfl⟩ := List.head?_eq_some_iff.mp plus
    exact congrArg (Option.filter _) (whole rest)
  · -- No plus sign comes to the front in lower case.
    have lower := mt (head?_asciiLower_eq_some_iff (by decide)).mp plus
    rw [natBelow?_of_no_plus plus, natBelow?_of_no_plus lower, whole]

end RelyingParty.Text
