import Mathlib.Data.List.TakeDrop
import RelyingParty.Json.Record
import RelyingParty.Proofs.Except
import RelyingParty.Proofs.Text

/-! What is read from JSON stands at the front of the text: it is read in the same way, whatever
follows it. A number must be followed by the same character, as it goes on where a digit does. -/

namespace RelyingParty.Json

section Reader

variable {ε ε' α β : Type}

/-- Whether a reader reads a front of a text as it does when something else follows that begins with
the same character. -/
def Peeks (read : Text → Except ε (α × Text)) : Prop :=
  ∀ ⦃text value rest⦄, read text = .ok (value, rest) →
    ∃ front, text = front ++ rest ∧
      ∀ more : Text, more.head? = rest.head? → read (front ++ more) = .ok (value, more)

/-- Whether a reader reads a front of a text, which is not empty, as it does when anything else
follows. -/
def Takes (read : Text → Except ε (α × Text)) : Prop :=
  ∀ ⦃text value rest⦄, read text = .ok (value, rest) →
    ∃ front, front ≠ [] ∧ text = front ++ rest ∧
      ∀ more : Text, read (front ++ more) = .ok (value, more)

/-- Texts with the same front begin alike when what follows it does. -/
theorem head?_append_of_head? {more rest : Text} (same : more.head? = rest.head?) (front : Text) :
    (front ++ more).head? = (front ++ rest).head? := by
  rw [List.head?_append, List.head?_append, same]

variable {read : Text → Except ε (α × Text)}

/-- What may be followed by anything may be followed by the same character. -/
theorem Takes.peeks (takes : Takes read) : Peeks read := by
  -- The same part is taken off, and the next character is not even needed.
  intro text value rest found
  obtain ⟨front, _, whole, again⟩ := takes found
  exact ⟨front, whole, fun more _ => again more⟩

/-- One reader behind another one reads what both read together. -/
theorem Peeks.bind {next : α → Text → Except ε (β × Text)} (first : Peeks read)
    (second : ∀ value, Peeks (next value)) :
    Peeks fun text => read text >>= fun found => next found.1 found.2 := by
  -- The second part begins as before, so the first one ends as before.
  intro text value rest found
  obtain ⟨⟨one, behind⟩, opened, closed⟩ := bind_eq_ok_iff.mp found
  obtain ⟨front, rfl, again⟩ := first opened
  obtain ⟨back, rfl, later⟩ := second one closed
  refine ⟨front ++ back, by simp, fun more same => bind_eq_ok_iff.mpr ⟨(one, back ++ more), ?_, ?_⟩⟩
  · rw [List.append_assoc]
    exact again _ (head?_append_of_head? same back)
  · exact later more same

/-- What is read last decides what may follow. -/
theorem Peeks.bind_takes {next : α → Text → Except ε (β × Text)} (first : Peeks read)
    (second : ∀ value, Takes (next value)) :
    Takes fun text => read text >>= fun found => next found.1 found.2 := by
  intro text value rest found
  obtain ⟨⟨one, behind⟩, opened, closed⟩ := bind_eq_ok_iff.mp found
  obtain ⟨front, rfl, again⟩ := first opened
  obtain ⟨back, some_back, rfl, later⟩ := second one closed
  refine ⟨front ++ back, List.append_ne_nil_of_right_ne_nil _ some_back, by simp, fun more => ?_⟩
  refine bind_eq_ok_iff.mpr ⟨(one, back ++ more), ?_, later more⟩
  -- What follows the first part begins as it did, since the second part is not empty.
  rw [List.append_assoc]
  refine again _ ?_
  rw [List.head?_append_of_ne_nil _ some_back, List.head?_append_of_ne_nil _ some_back]

/-- What is read may be changed. -/
theorem Peeks.map (peeks : Peeks read) (f : α → β) :
    Peeks fun text => (read text).map fun (value, rest) => (f value, rest) := by
  -- The change comes after the reading.
  intro text value rest found
  obtain ⟨⟨read, behind⟩, first, same⟩ := map_eq_ok_iff.mp found
  cases same
  obtain ⟨front, whole, again⟩ := peeks first
  exact ⟨front, whole, fun more same => map_eq_ok_iff.mpr ⟨(read, more), again more same, rfl⟩⟩

/-- The cause of a fault does not matter for what is read. -/
theorem Peeks.mapError (peeks : Peeks read) (cause : ε → ε') :
    Peeks fun text => (read text).mapError cause := by
  -- What is read is no fault.
  intro text value rest found
  obtain ⟨front, whole, again⟩ := peeks (mapError_eq_ok_iff.mp found)
  exact ⟨front, whole, fun more same => mapError_eq_ok_iff.mpr (again more same)⟩

/-- The blanks in front of a text are skipped in front of every text that begins in the same way. -/
theorem exists_blanks (text : Text) :
    ∃ blanks, text = blanks ++ skipSpace text ∧
      ∀ other : Text, other.head? = (skipSpace text).head? →
        skipSpace (blanks ++ other) = other := by
  refine ⟨text.takeWhile isSpace, (List.takeWhile_append_dropWhile).symm, fun other same => ?_⟩
  have blank : ∀ c ∈ text.takeWhile isSpace, isSpace c = true :=
    List.all_eq_true.mp List.all_takeWhile
  refine (Text.span_append blank fun c begins => ?_).2
  -- The first character behind the blanks is none.
  rw [same] at begins
  have stops := List.head?_dropWhile_not isSpace text
  rw [← skipSpace, begins] at stops
  simpa using stops

/-- A reader may skip blanks first. -/
theorem Peeks.skipSpace (peeks : Peeks read) : Peeks fun text => read (skipSpace text) := by
  -- The blanks end where they did, since the next character is the same.
  intro text value rest found
  obtain ⟨blanks, whole, skipped⟩ := exists_blanks text
  obtain ⟨front, split, again⟩ := peeks found
  refine ⟨blanks ++ front, by rw [whole, split, List.append_assoc], fun more same => ?_⟩
  have begins : (front ++ more).head? = (Json.skipSpace text).head? := by
    rw [split]
    exact head?_append_of_head? same front
  have bare : Json.skipSpace (blanks ++ front ++ more) = front ++ more := by
    rw [List.append_assoc, skipped _ begins]
  exact (congrArg read bare).trans (again more same)

end Reader

section Number

variable {negative : Bool} {value count significand : Nat} {start : Int} {text run rest : Text}

/-- A run of digits ends in front of the same character. -/
theorem exists_front_of_spanDigits (spanned : Decimal.spanDigits text = (run, rest)) :
    ∃ front, text = front ++ rest ∧ ∀ more : Text, more.head? = rest.head? →
      Decimal.spanDigits (front ++ more) = (run, more) := by
  -- The digits are taken while they last, and the next character is none.
  rw [Decimal.spanDigits, List.span_eq_takeWhile_dropWhile] at spanned
  cases spanned
  refine ⟨text.takeWhile Char.isDigit, List.takeWhile_append_dropWhile.symm, fun more same => ?_⟩
  have digits : ∀ c ∈ text.takeWhile Char.isDigit, c.isDigit = true :=
    List.all_eq_true.mp List.all_takeWhile
  have ends : ∀ c ∈ more.head?, c.isDigit = false := by
    intro c begins
    have stops := List.head?_dropWhile_not Char.isDigit text
    rw [← same, begins] at stops
    simpa using stops
  rw [Decimal.spanDigits, List.span_eq_takeWhile_dropWhile]
  exact Prod.ext (Text.span_append digits ends).1 (Text.span_append digits ends).2

/-- The digits that fit end in front of the same character. -/
theorem exists_front_of_spanFitting {fitting fits : Nat}
    (spanned : spanFitting value count text = (fitting, fits, rest)) :
    ∃ front, text = front ++ rest ∧ ∀ more : Text, more.head? = rest.head? →
      spanFitting value count (front ++ more) = (fitting, fits, more) := by
  -- By induction on the digits, as long as they fit.
  fun_induction spanFitting value count text with
  | case1 value count =>
    cases spanned
    refine ⟨[], rfl, fun more same => ?_⟩
    obtain rfl : more = [] := List.head?_eq_none_iff.mp same
    rfl
  | case2 value count c tail room ih =>
    obtain ⟨front, whole, again⟩ := ih spanned
    refine ⟨c :: front, congrArg (c :: ·) whole, fun more same => ?_⟩
    rw [List.cons_append, spanFitting, if_pos room]
    exact again more same
  | case3 value count c tail full =>
    cases spanned
    refine ⟨[], rfl, fun more same => ?_⟩
    -- The digits end in front of this character, and the same one stands there again.
    obtain ⟨tail, rfl⟩ : ∃ tail, more = c :: tail := List.head?_eq_some_iff.mp same
    rw [List.nil_append, spanFitting, if_neg full]

/-- The digits that fit and those that are passed over end in front of the same character. -/
theorem exists_front_of_digits {fitting fits : Nat} {left : Text}
    (spanned : spanFitting value count text = (fitting, fits, left))
    (excess : Decimal.spanDigits left = (run, rest)) :
    ∃ front, text = front ++ rest ∧ ∀ more : Text, more.head? = rest.head? →
      ∃ left, spanFitting value count (front ++ more) = (fitting, fits, left) ∧
        Decimal.spanDigits left = (run, more) := by
  -- One run ends where the other begins.
  obtain ⟨front, rfl, fitted⟩ := exists_front_of_spanFitting spanned
  obtain ⟨back, rfl, skipped⟩ := exists_front_of_spanDigits excess
  refine ⟨front ++ back, by simp, fun more same => ⟨back ++ more, ?_, skipped more same⟩⟩
  rw [List.append_assoc]
  exact fitted _ (head?_append_of_head? same back)

/-- What is read behind digits, up to the next character, is read behind the same digits when
something else follows it. -/
theorem exists_front_behind_digits {tail : Text → Except ε (α × Text)} (peeks : Peeks tail)
    {fitting fits : Nat} {left : Text} {c : Char} {found : α} (first : text.head? = some c)
    (spanned : spanFitting value count text = (fitting, fits, left))
    (read : tail (Decimal.spanDigits left).2 = .ok (found, rest)) :
    ∃ front, text = front ++ rest ∧ ∀ more : Text, more.head? = rest.head? →
      (front ++ more).head? = some c ∧ ∃ left' behind,
        spanFitting value count (front ++ more) = (fitting, fits, left') ∧
        Decimal.spanDigits left' = ((Decimal.spanDigits left).1, behind) ∧
        tail behind = .ok (found, more) := by
  obtain ⟨front, whole, fitted⟩ := exists_front_of_digits spanned (Prod.eta _).symm
  obtain ⟨back, ends, again⟩ := peeks read
  rw [ends] at whole fitted
  refine ⟨front ++ back, by simp [whole], fun more same => ?_⟩
  -- What follows the digits begins as before, and so do they.
  have next := head?_append_of_head? same back
  obtain ⟨left', spanned, excess⟩ := fitted _ next
  have begins := head?_append_of_head? next front
  rw [← whole, first] at begins
  rw [List.append_assoc]
  exact ⟨begins, left', back ++ more, spanned, excess, again more same⟩

/-- The digits of an exponent are read up to the next character. -/
theorem peeks_readExponentDigits (negative : Bool) (significand : Nat) (start : Int)
    (below : Bool) : Peeks (readExponentDigits negative significand start below) := by
  intro text value rest found
  unfold readExponentDigits at found
  cases spanned : Decimal.spanDigits text with
  | mk run behind =>
    obtain ⟨front, whole, again⟩ := exists_front_of_spanDigits spanned
    rw [spanned] at found
    cases run with
    -- An exponent has at least one digit.
    | nil => cases behind <;> cases found
    | cons digit run =>
      -- What follows the digits is handed on as it is.
      simp only at found
      split at found
      · rename_i x scaled
        cases found
        refine ⟨front, whole, fun more same => ?_⟩
        unfold readExponentDigits
        rw [again more same]
        simp only [scaled]
      · cases found

section Exponent

variable {mark : Char} (letter : mark = 'e' ∨ mark = 'E')
include letter

/-- A minus sign stands in front of the digits of a negative exponent. -/
theorem readExponent_minus (text : Text) :
    readExponent negative significand start (mark :: '-' :: text) =
      readExponentDigits negative significand start true text := if_pos letter

/-- A plus sign may stand in front of the digits of an exponent. -/
theorem readExponent_plus (text : Text) :
    readExponent negative significand start (mark :: '+' :: text) =
      readExponentDigits negative significand start false text := if_pos letter

/-- Without a sign the digits of an exponent follow its letter. -/
theorem readExponent_unsigned (minus : text.head? ≠ some '-') (plus : text.head? ≠ some '+') :
    readExponent negative significand start (mark :: text) =
      readExponentDigits negative significand start false text := by
  -- The other two cases begin with a sign.
  refine (if_pos letter).trans ?_
  split
  · exact absurd rfl minus
  · exact absurd rfl plus
  · rfl

end Exponent

/-- The end of a number takes nothing off. -/
theorem finish_eq_ok_iff {x : JsonNumber} :
    readExponent.finish negative significand start text = .ok (x, rest) ↔
      text = rest ∧ ∃ y, scale? negative significand start = some y ∧ x = .real y := by
  -- Only the number may fail, and the text is handed on.
  unfold readExponent.finish
  cases scale? negative significand start with
  | none => simp
  | some y => simp [and_comm, eq_comm]

/-- A number without an exponent part ends in front of what is no letter of an exponent. -/
theorem readExponent_finish (plain : ∀ c ∈ text.head?, ¬(c = 'e' ∨ c = 'E')) :
    readExponent negative significand start text =
      readExponent.finish negative significand start text := by
  -- The first character is looked at, if there is one.
  cases text with
  | nil => rfl
  | cons c text => exact if_neg (plain c rfl)

/-- An exponent part is read up to the next character, and so is the end of a number without one. -/
theorem peeks_readExponent (negative : Bool) (significand : Nat) (start : Int) :
    Peeks (readExponent negative significand start) := by
  intro text value rest found
  by_cases plain : ∀ c ∈ text.head?, ¬(c = 'e' ∨ c = 'E')
  · -- Without a letter nothing is taken, and what follows only has to begin with none either.
    rw [readExponent_finish plain] at found
    obtain ⟨rfl, scaled⟩ := finish_eq_ok_iff.mp found
    refine ⟨[], rfl, fun more same => ?_⟩
    rw [List.nil_append, readExponent_finish (same ▸ plain)]
    exact finish_eq_ok_iff.mpr ⟨rfl, scaled⟩
  · -- The letter and its sign, if there is one, stand in front of the digits.
    push Not at plain
    obtain ⟨mark, begins, letter⟩ := plain
    obtain ⟨text, rfl⟩ := List.head?_eq_some_iff.mp begins
    by_cases minus : text.head? = some '-'
    · obtain ⟨text, rfl⟩ := List.head?_eq_some_iff.mp minus
      rw [readExponent_minus letter] at found
      obtain ⟨front, rfl, again⟩ := peeks_readExponentDigits _ _ _ _ found
      refine ⟨mark :: '-' :: front, rfl, fun more same => ?_⟩
      exact (readExponent_minus letter _).trans (again more same)
    by_cases plus : text.head? = some '+'
    · obtain ⟨text, rfl⟩ := List.head?_eq_some_iff.mp plus
      rw [readExponent_plus letter] at found
      obtain ⟨front, rfl, again⟩ := peeks_readExponentDigits _ _ _ _ found
      refine ⟨mark :: '+' :: front, rfl, fun more same => ?_⟩
      exact (readExponent_plus letter _).trans (again more same)
    · -- Without a sign the digits stand at once, and what follows them is asked for one again.
      rw [readExponent_unsigned letter minus plus] at found
      obtain ⟨front, rfl, again⟩ := peeks_readExponentDigits _ _ _ _ found
      refine ⟨mark :: front, rfl, fun more same => ?_⟩
      rw [← head?_append_of_head? same front] at plus minus
      exact (readExponent_unsigned letter minus plus).trans (again more same)

/-- The digits behind a point that fit are added to the number, and all others are passed over. -/
theorem readFraction_of_digit {fitting fits : Nat} {c : Char} (digit : text.head? = some c)
    (isDigit : c.isDigit = true)
    (spanned : spanFitting significand 0 text = (fitting, fits, rest)) :
    readFraction negative significand start text =
      readExponent negative fitting (start - fits) (Decimal.spanDigits rest).2 := by
  -- With a digit at the start, the branches are those of the fitting digits.
  obtain ⟨text, rfl⟩ := List.head?_eq_some_iff.mp digit
  simp only [readFraction, isDigit, if_true, spanned]

/-- The digits behind a point are read up to the next character, with an exponent part. -/
theorem peeks_readFraction (negative : Bool) (significand : Nat) (start : Int) :
    Peeks (readFraction negative significand start) := by
  intro text value rest found
  cases first : text.head? with
  | none =>
    -- A point has to be followed by a digit.
    obtain rfl := List.head?_eq_none_iff.mp first
    cases found
  | some c =>
    cases digit : c.isDigit with
    | false =>
      obtain ⟨text, rfl⟩ := List.head?_eq_some_iff.mp first
      exact absurd found (by simp [readFraction, digit])
    | true =>
      cases spanned : spanFitting significand 0 text with
      | mk fitting behind =>
        obtain ⟨fits, left⟩ := behind
        rw [readFraction_of_digit first digit spanned] at found
        -- The digits are the same again, and so is the exponent behind them.
        obtain ⟨front, whole, again⟩ :=
          exists_front_behind_digits (peeks_readExponent _ _ _) first spanned found
        refine ⟨front, whole, fun more same => ?_⟩
        obtain ⟨begins, left', behind, spanned, excess, read⟩ := again more same
        rw [readFraction_of_digit begins digit spanned, excess]
        exact read

/-- Where a fraction or an exponent may follow, the number ends otherwise. -/
theorem readNumberTail_of_plain {skipped : Nat} (point : text.head? ≠ some '.')
    (letter : ∀ c ∈ text.head?, ¬(c = 'e' ∨ c = 'E')) :
    readNumberTail negative significand skipped text =
      if skipped = 0 then .ok (wholeNumber negative significand, text)
      else readExponent negative significand skipped text := by
  -- The other three cases begin with a point or a letter.
  unfold readNumberTail
  split
  · exact absurd rfl point
  · exact absurd (.inl rfl) (letter 'e' rfl)
  · exact absurd (.inr rfl) (letter 'E' rfl)
  · rfl

/-- What may follow the integral digits of a number is read up to the next character. -/
theorem peeks_readNumberTail (negative : Bool) (significand skipped : Nat) :
    Peeks (readNumberTail negative significand skipped) := by
  intro text value rest found
  -- A point, an exponent and the end are told apart by the next character.
  by_cases point : text.head? = some '.'
  · obtain ⟨text, rfl⟩ := List.head?_eq_some_iff.mp point
    obtain ⟨front, rfl, again⟩ := peeks_readFraction _ _ _ found
    exact ⟨'.' :: front, rfl, again⟩
  by_cases letter : ∀ c ∈ text.head?, ¬(c = 'e' ∨ c = 'E')
  · rw [readNumberTail_of_plain point letter] at found
    by_cases fits : skipped = 0
    · rw [if_pos fits] at found
      cases found
      refine ⟨[], rfl, fun more same => ?_⟩
      rw [List.nil_append, readNumberTail_of_plain (same ▸ point) (same ▸ letter), if_pos fits]
    · rw [if_neg fits] at found
      obtain ⟨front, rfl, again⟩ := peeks_readExponent _ _ _ found
      refine ⟨front, rfl, fun more same => ?_⟩
      rw [← head?_append_of_head? same front] at point letter
      rw [readNumberTail_of_plain point letter, if_neg fits]
      exact again more same
  · -- The letter of the exponent is looked at again.
    push Not at letter
    obtain ⟨mark, begins, letter⟩ := letter
    have exponent {text : Text} (begins : text.head? = some mark) :
        readNumberTail negative significand skipped text =
          readExponent negative significand skipped text := by
      obtain ⟨text, rfl⟩ := List.head?_eq_some_iff.mp begins
      rcases letter with rfl | rfl <;> rfl
    rw [exponent begins] at found
    obtain ⟨front, rfl, again⟩ := peeks_readExponent _ _ _ found
    refine ⟨front, rfl, fun more same => ?_⟩
    rw [exponent ((head?_append_of_head? same front).trans begins)]
    exact again more same

/-- A number that does not begin with zero begins with the digits that fit. -/
theorem readUnsigned_of_digit {fitting fits : Nat} {c : Char} (first : text.head? = some c)
    (digit : c.isDigit = true) (other : c ≠ '0')
    (spanned : spanFitting 0 0 text = (fitting, fits, rest)) :
    readUnsigned negative text =
      readNumberTail negative fitting (Decimal.spanDigits rest).1.length
        (Decimal.spanDigits rest).2 := by
  -- A zero is read by a case of its own.
  obtain ⟨text, rfl⟩ := List.head?_eq_some_iff.mp first
  unfold readUnsigned
  split
  · rename_i empty
    cases empty
  · rename_i same
    exact absurd (List.cons.inj same).1 other
  · rename_i same
    obtain ⟨rfl, rfl⟩ := List.cons.inj same
    simp only [digit, if_true, spanned]

/-- A number is read up to the next character. -/
theorem peeks_readUnsigned (negative : Bool) : Peeks (readUnsigned negative) := by
  intro text value rest found
  cases first : text.head? with
  | none =>
    obtain rfl := List.head?_eq_none_iff.mp first
    cases found
  | some c =>
    by_cases zero : c = '0'
    · -- No digit follows a zero.
      subst zero
      obtain ⟨text, rfl⟩ := List.head?_eq_some_iff.mp first
      unfold readUnsigned at found
      simp only at found
      split at found
      · cases found
      · rename_i single
        obtain ⟨front, rfl, again⟩ := peeks_readNumberTail _ _ _ found
        refine ⟨'0' :: front, rfl, fun more same => ?_⟩
        rw [← head?_append_of_head? same front] at single
        exact (if_neg single).trans (again more same)
    cases digit : c.isDigit with
    | false =>
      obtain ⟨text, rfl⟩ := List.head?_eq_some_iff.mp first
      exact absurd found (by simp [readUnsigned, digit])
    | true =>
      cases spanned : spanFitting 0 0 text with
      | mk fitting behind =>
        obtain ⟨fits, left⟩ := behind
        rw [readUnsigned_of_digit first digit zero spanned] at found
        -- As many digits are passed over again, so the number goes on in the same way.
        obtain ⟨front, whole, again⟩ :=
          exists_front_behind_digits (peeks_readNumberTail _ _ _) first spanned found
        refine ⟨front, whole, fun more same => ?_⟩
        obtain ⟨begins, left', behind, spanned, excess, read⟩ := again more same
        rw [readUnsigned_of_digit begins digit zero spanned, excess]
        exact read

end Number

section String

variable {text rest : Text}

/-- A word is read off what begins with it. -/
theorem readWord_eq_ok_iff {word : Text} : readWord word text = .ok rest ↔ text = word ++ rest := by
  -- Letter by letter.
  fun_induction readWord word text with
  | case1 => simp [eq_comm]
  | case2 => simp
  | case3 => simp_all
  | case4 => simp_all [eq_comm]

/-- Four hexadecimal digits are taken. -/
theorem takes_readHex4 : Takes readHex4 := by
  -- Four characters are taken, whatever they say.
  intro text value rest found
  unfold readHex4 at found
  split at found
  · rename_i a b c d tail
    cases read : Text.digits? 16 [a, b, c, d] with
    | none =>
      rw [read] at found
      cases found
    | some number =>
      rw [read] at found
      cases found
      refine ⟨[a, b, c, d], List.cons_ne_nil _ _, rfl, fun more => ?_⟩
      simp only [List.cons_append, List.nil_append, readHex4, read]
  · cases found

/-- The digits of an escape are taken, or those of a pair of escapes. -/
theorem takes_readUnicodeEscape : Takes readUnicodeEscape := by
  intro text value rest found
  obtain ⟨⟨first, behind⟩, read, single⟩ := bind_eq_ok_iff.mp found
  obtain ⟨front, some_front, rfl, again⟩ := takes_readHex4 read
  simp only at single
  split at single
  · cases single
  rename_i noTail
  split at single
  · -- The first of a pair is followed by the second one.
    rename_i lead
    obtain ⟨escape, marked, pair⟩ := bind_eq_ok_iff.mp single
    obtain rfl := readWord_eq_ok_iff.mp marked
    obtain ⟨⟨second, left⟩, read, ends⟩ := bind_eq_ok_iff.mp pair
    obtain ⟨back, some_back, rfl, later⟩ := takes_readHex4 read
    simp only at ends
    split at ends
    · rename_i tail
      obtain ⟨rfl, rfl⟩ := Prod.mk.inj (Except.ok.inj ends)
      refine ⟨front ++ ("\\u".toList ++ back), List.append_ne_nil_of_left_ne_nil some_front _,
        by simp, fun more => bind_eq_ok_iff.mpr ⟨(first, "\\u".toList ++ (back ++ more)), ?_, ?_⟩⟩
      · rw [List.append_assoc, List.append_assoc]
        exact again _
      · simp only
        rw [if_neg noTail, if_pos lead]
        refine bind_eq_ok_iff.mpr ⟨back ++ more, readWord_eq_ok_iff.mpr rfl,
          bind_eq_ok_iff.mpr ⟨(second, more), later more, if_pos tail⟩⟩
    · cases ends
  · -- Any other escape stands for a character by itself.
    rename_i alone
    cases single
    refine ⟨front, some_front, rfl, fun more => bind_eq_ok_iff.mpr ⟨(first, more), again more, ?_⟩⟩
    simp only
    rw [if_neg noTail, if_neg alone]

/-- What a backslash introduces is taken. -/
theorem takes_readEscape : Takes readEscape := by
  intro text value rest found
  unfold readEscape at found
  split at found
  · cases found
  case h_10 tail =>
    obtain ⟨front, _, rfl, again⟩ := takes_readUnicodeEscape found
    exact ⟨'u' :: front, List.cons_ne_nil _ _, rfl, again⟩
  case h_11 => cases found
  -- All others are single characters.
  all_goals
    cases found
    exact ⟨[_], List.cons_ne_nil _ _, rfl, fun more => rfl⟩

/-- A string is read up to its closing quote, in as many steps as it has characters. -/
theorem exists_front_of_readTextFrom {steps : Nat} {read value : Text}
    (found : readTextFrom steps read text = .ok (value, rest)) :
    ∃ front, front ≠ [] ∧ text = front ++ rest ∧ ∀ (more : Text) (steps : Nat),
      front.length ≤ steps → readTextFrom steps read (front ++ more) = .ok (value, more) := by
  have enough {front : Text} {c : Char} {steps : Nat} (room : (c :: front).length ≤ steps) :
      ∃ left, steps = left + 1 ∧ front.length ≤ left :=
    ⟨steps - 1, by simp at room; omega, by simp at room; omega⟩
  -- By induction on the steps: an escape or a character, up to the quote.
  fun_induction readTextFrom steps read text with
  | case1 => cases found
  | case2 => cases found
  | case3 steps read tail =>
    cases found
    refine ⟨['"'], List.cons_ne_nil _ _, rfl, fun more steps room => ?_⟩
    obtain ⟨left, rfl, _⟩ := enough room
    rfl
  | case4 steps read tail c behind escape quote ih =>
    -- An escape takes one step, however long it is.
    obtain ⟨first, _, rfl, escaped⟩ := takes_readEscape escape
    obtain ⟨front, _, rfl, again⟩ := ih found
    refine ⟨'\\' :: (first ++ front), List.cons_ne_nil _ _, by simp, fun more steps room => ?_⟩
    obtain ⟨left, rfl, both⟩ := enough room
    have later : front.length ≤ left := by
      rw [List.length_append] at both
      omega
    rw [List.cons_append, List.append_assoc, readTextFrom, if_neg quote, if_pos rfl, escaped]
    exact again more left later
  | case5 => cases found
  | case6 => cases found
  | case7 steps read c tail quote backslash printable ih =>
    obtain ⟨front, _, rfl, again⟩ := ih found
    refine ⟨c :: front, List.cons_ne_nil _ _, rfl, fun more steps room => ?_⟩
    obtain ⟨left, rfl, later⟩ := enough room
    rw [List.cons_append, readTextFrom, if_neg quote, if_neg backslash, if_neg printable]
    exact again more left later

/-- A string is taken up to its closing quote. -/
theorem takes_readText : Takes readText := by
  -- The text itself is long enough for its own steps.
  intro text value rest found
  obtain ⟨front, some_front, whole, again⟩ := exists_front_of_readTextFrom found
  refine ⟨front, some_front, whole, fun more => again more _ ?_⟩
  rw [List.length_append]
  omega

end String

section Token

variable {text rest : Text}

/-- A word behind its first letter is taken. -/
theorem takes_map_readWord {α : Type} {word : Text} (some_word : word ≠ []) (value : α) :
    Takes fun text => (readWord word text).map (value, ·) := by
  -- The word is what is taken.
  intro text found rest read
  obtain ⟨behind, dropped, same⟩ := map_eq_ok_iff.mp read
  cases same
  exact ⟨word, some_word, readWord_eq_ok_iff.mp dropped, fun more =>
    map_eq_ok_iff.mpr ⟨more, readWord_eq_ok_iff.mpr rfl, rfl⟩⟩

/-- A token that begins with a digit is a number. -/
theorem readToken_of_digit {c : Char} (first : text.head? = some c) (digit : c.isDigit = true) :
    readToken text =
      (readUnsigned false text).map fun (value, rest) => (.number value, rest) := by
  obtain ⟨text, rfl⟩ := List.head?_eq_some_iff.mp first
  unfold readToken
  split
  case h_1 same => cases same
  case h_9 same =>
    obtain ⟨rfl, rfl⟩ := List.cons.inj same
    exact if_pos digit
  -- No other token begins with a digit.
  all_goals
    rename_i same
    obtain ⟨rfl, _⟩ := List.cons.inj same
    exact absurd digit (by decide)

/-- A token is read up to the next character. -/
theorem peeks_readToken : Peeks readToken := by
  -- Behind its first character every token is read by its own reader.
  have behind {c : Char} {inner : Text → Except Fault (Token × Text)} (peeks : Peeks inner)
      (begins : ∀ text, readToken (c :: text) = inner text) {text rest : Text} {token : Token}
      (found : readToken (c :: text) = .ok (token, rest)) :
      ∃ front, c :: text = front ++ rest ∧ ∀ more : Text, more.head? = rest.head? →
        readToken (front ++ more) = .ok (token, more) := by
    rw [begins] at found
    obtain ⟨front, rfl, again⟩ := peeks found
    exact ⟨c :: front, rfl, fun more same => (begins _).trans (again more same)⟩
  have word (word : Text) (token : Token) (some_word : word ≠ []) :=
    (takes_map_readWord some_word token).peeks
  have opening (token : Token) : Peeks fun text : Text => (.ok (token, text) : Except Fault _) := by
    intro text value rest found
    cases found
    exact ⟨[], rfl, fun more _ => rfl⟩
  intro text token rest found
  by_cases number : ∃ c, text.head? = some c ∧ c.isDigit = true
  · -- An unsigned number is read from its first digit on, which is asked for again.
    obtain ⟨c, first, digit⟩ := number
    rw [readToken_of_digit first digit] at found
    obtain ⟨front, rfl, again⟩ := (peeks_readUnsigned false).map Token.number found
    refine ⟨front, rfl, fun more same => ?_⟩
    rw [readToken_of_digit ((head?_append_of_head? same front).trans first) digit]
    exact again more same
  · -- Any other token is told by its first character alone.
    unfold readToken at found
    split at found
    · cases found
    · exact behind (word "ull" .null (by decide)) (fun _ => rfl) found
    · exact behind (word "rue" (.bool true) (by decide)) (fun _ => rfl) found
    · exact behind (word "alse" (.bool false) (by decide)) (fun _ => rfl) found
    · exact behind (takes_readText.peeks.map Token.string) (fun _ => rfl) found
    · exact behind (opening .arrayStart) (fun _ => rfl) found
    · exact behind (opening .objectStart) (fun _ => rfl) found
    · exact behind ((peeks_readUnsigned true).map Token.number) (fun _ => rfl) found
    · split at found
      · rename_i digit
        exact absurd ⟨_, rfl, digit⟩ number
      · cases found

end Token

end RelyingParty.Json
