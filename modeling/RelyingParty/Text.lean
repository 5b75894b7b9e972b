/-! Text is a list of characters, cut and matched by structural functions. -/

namespace RelyingParty

/-- Every text of the library, so that each function on it is a recursion over characters. -/
abbrev Text := List Char

instance : Coe String Text := ⟨String.toList⟩

namespace Text

/-- The parts before and after the first `mark`. -/
def splitFirst (mark : Char) : Text → Option (Text × Text)
  | [] => none
  | c :: rest =>
    if c = mark then some ([], rest)
    else (splitFirst mark rest).map fun parts => (c :: parts.1, parts.2)

theorem splitFirst_length {mark : Char} {text before after : Text}
    (found : splitFirst mark text = some (before, after)) :
    before.length + after.length + 1 = text.length := by
  -- The mark is the only character that neither part holds.
  fun_induction splitFirst mark text generalizing before with
  | case1 => simp at found
  | case2 => simp_all
  | case3 c rest _ ih =>
    obtain ⟨⟨head, tail⟩, split, same⟩ := Option.map_eq_some_iff.mp found
    simp at same
    obtain ⟨rfl, rfl⟩ := same
    have := ih split
    simp
    omega

theorem dropWhile_length_le {α : Type} (p : α → Bool) (list : List α) :
    (list.dropWhile p).length ≤ list.length :=
  -- What is dropped is a prefix.
  (List.dropWhile_sublist p).length_le

/-- The parts before and after the last `mark`. -/
def splitLast (mark : Char) : Text → Option (Text × Text)
  | [] => none
  | c :: rest =>
    -- The first character counts only when no mark stands behind it.
    match splitLast mark rest with
    | some (before, after) => some (c :: before, after)
    | none => if c = mark then some ([], rest) else none

/-- All parts between the characters that `isMark` accepts; a text without any is one part. -/
def splitWhere (isMark : Char → Bool) : Text → List Text
  | [] => [[]]
  | c :: rest =>
    if isMark c then [] :: splitWhere isMark rest
    else
      match splitWhere isMark rest with
      -- There is always a part, so this case never arises.
      | [] => [[c]]
      | part :: parts => (c :: part) :: parts

/-- All parts between the occurrences of `mark`. -/
def splitAll (mark : Char) (text : Text) : List Text := splitWhere (· = mark) text

/-- The part before the first `mark`, or the whole text. -/
def before (mark : Char) (text : Text) : Text := text.takeWhile (· ≠ mark)

/-- The head of a text before the first `mark`, and the tail after it when there is one. -/
def cutTail (mark : Char) (text : Text) : Text × Option Text :=
  match splitFirst mark text with
  | some (head, tail) => (head, some tail)
  | none => (text, none)

/-- The text after `start`, when it begins with it. -/
def dropStart? : (start text : Text) → Option Text
  | [], text => some text
  | _ :: _, [] => none
  | s :: start, c :: text => if s = c then dropStart? start text else none

/-- Whether the text begins with `start`. -/
def startsWith (start text : Text) : Bool := (dropStart? start text).isSome

/-- Whether the text ends with `tail`. -/
def endsWith (tail text : Text) : Bool := tail.isSuffixOf text

/-- The parts before and after the first occurrence of `needle`. -/
def splitAt? (needle : Text) : Text → Option (Text × Text)
  | [] => if needle = [] then some ([], []) else none
  | c :: rest =>
    match dropStart? needle (c :: rest) with
    | some after => some ([], after)
    | none => (splitAt? needle rest).map fun parts => (c :: parts.1, parts.2)

theorem dropStart?_length {start text rest : Text} (dropped : dropStart? start text = some rest) :
    rest.length + start.length = text.length := by
  -- The start is dropped character by character.
  fun_induction dropStart? start text <;> simp_all
  omega

theorem splitAt?_length {needle text before after : Text}
    (found : splitAt? needle text = some (before, after)) :
    before.length + needle.length + after.length = text.length := by
  -- The needle stands between both parts.
  fun_induction splitAt? needle text generalizing before with
  | case1 => simp_all
  | case2 => simp at found
  | case3 c rest tail dropped =>
    have := dropStart?_length dropped
    simp at found
    obtain ⟨rfl, rfl⟩ := found
    simp
    simp at this
    omega
  | case4 c rest _ ih =>
    obtain ⟨⟨head, tail⟩, split, same⟩ := Option.map_eq_some_iff.mp found
    simp at same
    obtain ⟨rfl, rfl⟩ := same
    have := ih split
    simp
    omega

/-- Whether `needle` occurs in the text. -/
def includes (needle text : Text) : Bool := (splitAt? needle text).isSome

/-- The text without the first occurrence of `needle`. -/
def removeFirst (needle text : Text) : Text :=
  match splitAt? needle text with
  | some (before, after) => before ++ after
  | none => text

/-- Replaces every occurrence of `needle`, from left to right, by `replacement`. -/
def replaceAll (needle replacement text : Text) : Text := go 0 text
where
  /-- The first argument counts the characters of an occurrence that are still to be passed over. -/
  go : Nat → Text → Text
    | _, [] => []
    | skip + 1, _ :: rest => go skip rest
    | 0, c :: rest =>
      if startsWith needle (c :: rest) then replacement ++ go (needle.length - 1) rest
      else c :: go 0 rest

/-- The text without leading and trailing characters that `isBlank` accepts. -/
def trimWhere (isBlank : Char → Bool) (text : Text) : Text :=
  ((text.dropWhile isBlank).reverse.dropWhile isBlank).reverse

/-- The maximal runs of characters that `isBlank` rejects. -/
def wordsWhere (isBlank : Char → Bool) (text : Text) : List Text :=
  (splitWhere isBlank text).filter (· ≠ [])

/-- Whether a character lies in one of some runs of code points. -/
def isWithin (runs : List (Nat × Nat)) (c : Char) : Bool :=
  runs.any fun run => run.1 ≤ c.toNat && c.toNat ≤ run.2

/-- ASCII letters in lower case, all other characters unchanged. -/
def asciiLower (text : Text) : Text := text.map Char.toLower

/-- ASCII letters in upper case, all other characters unchanged. -/
def asciiUpper (text : Text) : Text := text.map Char.toUpper

/-- A natural number in decimal digits. -/
def ofNat (n : Nat) : Text := Nat.toDigits 10 n

/-- An integer in decimal digits, with a sign when it is negative. -/
def ofInt : Int → Text
  | .ofNat n => ofNat n
  | .negSucc n => '-' :: ofNat (n + 1)

/-- The value of a digit of a base up to sixteen, in either case. -/
def digitValue? (base : Nat) (c : Char) : Option Nat :=
  let value :=
    if '0' ≤ c ∧ c ≤ '9' then c.toNat - '0'.toNat
    else if 'a' ≤ c ∧ c ≤ 'f' then c.toNat - 'a'.toNat + 10
    else if 'A' ≤ c ∧ c ≤ 'F' then c.toNat - 'A'.toNat + 10
    -- No digit at all, hence none of the base.
    else base
  if value < base then some value else none

/-- Continues reading digits after `value`; any other character refuses the whole text. -/
def digitsFrom? (base value : Nat) : Text → Option Nat
  | [] => some value
  | c :: rest =>
    match digitValue? base c with
    | some digit => digitsFrom? base (value * base + digit) rest
    | none => none

/-- The value of a non-empty run of digits. -/
def digits? (base : Nat) : Text → Option Nat
  | [] => none
  | text => digitsFrom? base 0 text

/-- A natural number below `bound` in decimal digits; one leading plus sign is allowed. -/
def natBelow? (bound : Nat) (text : Text) : Option Nat :=
  let unsigned :=
    match text with
    | '+' :: rest => rest
    | _ => text
  (digits? 10 unsigned).filter (· < bound)

/-- A signed number of 64 bits in decimal digits; one leading sign is allowed. -/
def int64? (text : Text) : Option Int :=
  match text with
  | '-' :: rest => ((digits? 10 rest).filter (· ≤ 0x8000000000000000)).map fun n => -Int.ofNat n
  | '+' :: rest => ((digits? 10 rest).filter (· < 0x8000000000000000)).map Int.ofNat
  | _ => ((digits? 10 text).filter (· < 0x8000000000000000)).map Int.ofNat

end Text

end RelyingParty
