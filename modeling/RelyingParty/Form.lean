import RelyingParty.Text.Utf8

/-! Query arguments in the form encoding of URLs. -/

namespace RelyingParty.Form

/-- Whether an octet stands for itself in the form encoding. -/
def isPlain (octet : UInt8) : Bool :=
  let c := Char.ofNat octet.toNat
  c.isAlphanum || c = '*' || c = '-' || c = '.' || c = '_'

/-- One octet in the form encoding. -/
def encodeOctet (octet : UInt8) : Text :=
  if isPlain octet then [Char.ofNat octet.toNat]
  else if octet = 0x20 then ['+']
  else Text.percentOctet octet

/-- A text in the form encoding. -/
def encode (text : Text) : Text := (Text.utf8 text).flatMap encodeOctet

/-- One argument in the form encoding. -/
def encodePair (pair : Text × Text) : Text := encode pair.1 ++ '=' :: encode pair.2

/-- The text without question marks at its end. -/
def dropQuestionMarks (url : Text) : Text := (url.reverse.dropWhile (· = '?')).reverse

/-- A URL with arguments at its end; question marks there are dropped first. -/
def appendArguments (url : Text) (arguments : List (Text × Text)) : Text :=
  if arguments = [] then url
  else
    -- Whether a question mark is left decides how the arguments are joined.
    let base := dropQuestionMarks url
    let separator := if base.contains '?' then '&' else '?'
    base ++ separator :: List.intercalate ['&'] (arguments.map encodePair)

end RelyingParty.Form
