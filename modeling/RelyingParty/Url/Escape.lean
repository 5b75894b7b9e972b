import RelyingParty.Text.Utf8

/-! Percent triplets in URLs: every part has its own characters that stand only as triplets. -/

namespace RelyingParty.Url

/-- The characters that are escaped everywhere: controls and all outside ASCII. -/
def isUnprintable (c : Char) : Bool := c < ' ' || '~' < c

/-- The characters that are escaped in a fragment. -/
def isUnsafeInFragment (c : Char) : Bool :=
  isUnprintable c || c = ' ' || c = '"' || c = '<' || c = '>' || c = '\x60'

/-- The characters that are escaped in a query. -/
def isUnsafeInQuery (c : Char) : Bool :=
  isUnprintable c || c = ' ' || c = '"' || c = '#' || c = '<' || c = '>'

/-- The characters that are escaped in a path. -/
def isUnsafeInPath (c : Char) : Bool :=
  isUnsafeInFragment c || c = '#' || c = '?' || c = '\x7b' || c = '\x7d'

/-- The characters that are escaped in a user name or a password. -/
def isUnsafeInCredentials (c : Char) : Bool :=
  isUnsafeInPath c || c = '/' || c = ':' || c = ';' || c = '=' || c = '@' || c = '[' || c = '\\'
    || c = ']' || c = '^' || c = '|'

/-- Escapes the characters that may not stand for themselves. -/
def escape (isUnsafe : Char → Bool) (text : Text) : Text :=
  text.flatMap fun c => if isUnsafe c then (Text.utf8 [c]).flatMap Text.percentOctet else [c]

/-- The octets of a text, those of triplets decoded; a percent sign that begins none is kept. -/
def unescape : Text → Octets
  | [] => []
  | '%' :: high :: low :: rest =>
    match Text.digits? 16 [high, low] with
    | some octet => UInt8.ofNat octet :: unescape rest
    | none => Text.utf8 ['%'] ++ unescape (high :: low :: rest)
  | c :: rest => Text.utf8 [c] ++ unescape rest

/-- The text of octets that are well-formed. -/
def textOf? (octets : Octets) : Option Text :=
  let text := Text.ofUtf8 octets
  if Text.utf8 text = octets then some text else none

end RelyingParty.Url
