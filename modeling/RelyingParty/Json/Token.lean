import RelyingParty.Json

/-! The first token of a JSON text: a scalar, or the opening of an array or object. -/

namespace RelyingParty.Json

/-- Why a text is no JSON: it ends too early, or something stands where it may not. -/
inductive Fault where
  | unfinished
  | malformed
  deriving DecidableEq, Repr

/-- What a JSON value begins with; a scalar is read whole. -/
inductive Token where
  | null
  | bool (value : Bool)
  | number (value : JsonNumber)
  | string (value : Text)
  | arrayStart
  | objectStart
  deriving Repr

/-- The blanks of JSON. -/
def isSpace (c : Char) : Bool := c = ' ' || c = '\n' || c = '\t' || c = '\r'

/-- The text without leading blanks. -/
def skipSpace (text : Text) : Text := text.dropWhile isSpace

/-- The rest of a word that must follow. -/
def readWord : (word text : Text) → Except Fault Text
  | [], text => .ok text
  | _ :: _, [] => .error .unfinished
  | w :: word, c :: text => if w = c then readWord word text else .error .malformed

/-- Appends digits to a number for as long as it stays below 2⁶⁴; also counts them. -/
def spanFitting (value count : Nat) : Text → Nat × Nat × Text
  | [] => (value, count, [])
  | c :: rest =>
    -- A digit that would exceed 64 bits ends the significand; the callers decide what it means.
    if c.isDigit ∧ value * 10 + (c.toNat - '0'.toNat) < 0x10000000000000000 then
      spanFitting (value * 10 + (c.toNat - '0'.toNat)) (count + 1) rest
    else (value, count, c :: rest)

/-- A power of ten, rounded. -/
def powerOfTen (exponent : Nat) : Binary64 := Binary64.ofNat (Nat.pow 10 exponent)

/-- Divides by 10³⁰⁸ until the exponent is in range, and then by the power that is left. -/
def divideByPower (x : Binary64) (exponent : Nat) : Nat → Binary64
  | 0 => x
  | steps + 1 =>
    if exponent ≤ 308 then x.div (powerOfTen exponent)
    -- The exponent may be far larger than what the steps take from it, but zero stays zero.
    else if x.isZero then x
    else divideByPower (x.div (powerOfTen 308)) (exponent - 308) steps

/-- A significand times a power of ten, rounded after each operation; none when it is infinite. -/
def scale? (negative : Bool) (significand : Nat) (exponent : Int) : Option Binary64 :=
  let start := Binary64.ofNat significand
  let scaled :=
    -- Two divisions make zero of any significand, so four steps are enough; none of them overflows.
    if exponent < 0 then some (divideByPower start exponent.natAbs 4)
    else if exponent ≤ 308 then
      let product := start.mul (powerOfTen exponent.toNat)
      if product.isFinite then some product else none
    else if start.isZero then some start
    else none
  scaled.map fun x => { x with negative }

/-- The digits of an exponent, with its sign already read. -/
def readExponentDigits (negative : Bool) (significand : Nat) (start : Int) (below : Bool)
    (text : Text) : Except Fault (JsonNumber × Text) :=
  match Decimal.spanDigits text with
  | ([], []) => .error .unfinished
  | ([], _ :: _) => .error .malformed
  | (run, rest) =>
    let size := Decimal.runValue run
    let scaled :=
      -- An exponent beyond 31 bits is not computed with: the number is zero or out of range.
      if size < 0x80000000 then
        scale? negative significand (if below then start - size else start + size)
      else if significand = 0 ∨ below then some ⟨negative, 0⟩
      else none
    match scaled with
    | some x => .ok (.real x, rest)
    | none => .error .malformed

/-- The exponent part of a number, when there is one, and the number's end. -/
def readExponent (negative : Bool) (significand : Nat) (start : Int) (text : Text) :
    Except Fault (JsonNumber × Text) :=
  match text with
  | [] => finish []
  | c :: rest =>
    if c = 'e' ∨ c = 'E' then
      match rest with
      | '-' :: rest => readExponentDigits negative significand start true rest
      | '+' :: rest => readExponentDigits negative significand start false rest
      | _ => readExponentDigits negative significand start false rest
    else finish (c :: rest)
where
  /-- A number without an exponent part. -/
  finish (rest : Text) : Except Fault (JsonNumber × Text) :=
    match scale? negative significand start with
    | some x => .ok (.real x, rest)
    | none => .error .malformed

/-- The digits after the point; those that no longer fit are passed over. -/
def readFraction (negative : Bool) (significand : Nat) (start : Int) (text : Text) :
    Except Fault (JsonNumber × Text) :=
  match text with
  | [] => .error .unfinished
  | c :: _ =>
    if c.isDigit then
      -- Only the digits that fit move the point.
      let (significand, count, rest) := spanFitting significand 0 text
      readExponent negative significand (start - count) (Decimal.spanDigits rest).2
    else .error .malformed

/-- An integer without fraction and exponent; zero with a sign and what exceeds 64 bits are real. -/
def wholeNumber (negative : Bool) (significand : Nat) : JsonNumber :=
  if negative then
    -- Integers have no negative zero, and end at -2⁶³.
    if significand = 0 ∨ 0x8000000000000000 < significand then
      .real { Binary64.ofNat significand with negative := true }
    else .integer (-(significand : Int))
  else .integer significand

/-- What may follow the integral digits of a number. -/
def readNumberTail (negative : Bool) (significand skipped : Nat) (text : Text) :
    Except Fault (JsonNumber × Text) :=
  match text with
  | '.' :: rest => readFraction negative significand skipped rest
  | 'e' :: _ => readExponent negative significand skipped text
  | 'E' :: _ => readExponent negative significand skipped text
  | _ =>
    -- Integral digits that were passed over make the number real, as a fraction would.
    if skipped = 0 then .ok (wholeNumber negative significand, text)
    else readExponent negative significand skipped text

/-- A number whose sign is already read. -/
def readUnsigned (negative : Bool) (text : Text) : Except Fault (JsonNumber × Text) :=
  match text with
  | [] => .error .unfinished
  -- A zero leads no other digits.
  | '0' :: rest =>
    if rest.head?.any Char.isDigit then .error .malformed else readNumberTail negative 0 0 rest
  | c :: _ =>
    if c.isDigit then
      let (significand, _, rest) := spanFitting 0 0 text
      let (skipped, rest) := Decimal.spanDigits rest
      readNumberTail negative significand skipped.length rest
    else .error .malformed

/-- The value of four hexadecimal digits. -/
def readHex4 (text : Text) : Except Fault (Nat × Text) :=
  match text with
  | a :: b :: c :: d :: rest =>
    match Text.digits? 16 [a, b, c, d] with
    | some value => .ok (value, rest)
    | none => .error .malformed
  -- Fewer than four characters are an end of the text, even when one of them is no digit.
  | _ => .error .unfinished

/-- The character of an escape with four digits, or of a pair of them. -/
def readUnicodeEscape (text : Text) : Except Fault (Char × Text) := do
  let (first, rest) ← readHex4 text
  -- The second half of a pair may not come first, and has to follow the first half.
  if 0xDC00 ≤ first ∧ first ≤ 0xDFFF then .error .malformed
  else if 0xD800 ≤ first ∧ first ≤ 0xDBFF then
    let rest ← readWord "\\u" rest
    let (second, rest) ← readHex4 rest
    if 0xDC00 ≤ second ∧ second ≤ 0xDFFF then
      .ok (Char.ofNat (0x10000 + (first - 0xD800) * 0x400 + (second - 0xDC00)), rest)
    else .error .malformed
  else .ok (Char.ofNat first, rest)

/-- The character that a backslash introduces. -/
def readEscape (text : Text) : Except Fault (Char × Text) :=
  match text with
  | [] => .error .unfinished
  | '"' :: rest => .ok ('"', rest)
  | '\\' :: rest => .ok ('\\', rest)
  | '/' :: rest => .ok ('/', rest)
  | 'b' :: rest => .ok ('\x08', rest)
  | 'f' :: rest => .ok ('\x0c', rest)
  | 'n' :: rest => .ok ('\n', rest)
  | 'r' :: rest => .ok ('\r', rest)
  | 't' :: rest => .ok ('\t', rest)
  | 'u' :: rest => readUnicodeEscape rest
  | _ => .error .malformed

/-- Reads a string up to its closing quote; `read` holds what was read, backwards, and the first
argument bounds the number of steps. -/
def readTextFrom : (steps : Nat) → (read text : Text) → Except Fault (Text × Text)
  | 0, _, _ => .error .unfinished
  | _, _, [] => .error .unfinished
  | steps + 1, read, c :: rest =>
    if c = '"' then .ok (read.reverse, rest)
    else if c = '\\' then
      match readEscape rest with
      | .ok (c, rest) => readTextFrom steps (c :: read) rest
      | .error fault => .error fault
    -- Control characters stand only as escapes.
    else if c < ' ' then .error .malformed
    else readTextFrom steps (c :: read) rest

/-- Reads a string whose opening quote is already read. -/
def readText (text : Text) : Except Fault (Text × Text) := readTextFrom (text.length + 1) [] text

/-- Reads the first token of a text without leading blanks. -/
def readToken (text : Text) : Except Fault (Token × Text) :=
  match text with
  | [] => .error .unfinished
  | 'n' :: rest => (readWord "ull" rest).map (Token.null, ·)
  | 't' :: rest => (readWord "rue" rest).map (Token.bool true, ·)
  | 'f' :: rest => (readWord "alse" rest).map (Token.bool false, ·)
  | '"' :: rest => (readText rest).map fun (value, rest) => (.string value, rest)
  | '[' :: rest => .ok (.arrayStart, rest)
  | '{' :: rest => .ok (.objectStart, rest)
  | '-' :: rest => (readUnsigned true rest).map fun (value, rest) => (.number value, rest)
  | c :: rest =>
    if c.isDigit then
      (readUnsigned false (c :: rest)).map fun (value, rest) => (.number value, rest)
    else .error .malformed

end RelyingParty.Json
