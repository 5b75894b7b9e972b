import RelyingParty.Text.Utf8

/-! XRIs: which identifiers they are, their normal forms, and who has authority over them. -/

namespace RelyingParty.Xri

/-- The scheme of XRIs with its slashes. -/
def scheme : Text := "xri://"

/-- The characters that begin the authority of an XRI; a parenthesis opens a cross-reference. -/
def sigils : Text := ['!', '=', '@', '+', '$', '(']

/-- Whether an identifier is an XRI; any other is a URL. -/
def isXri (identifier : Text) : Bool :=
  Text.startsWith scheme identifier || identifier.head?.any sigils.contains

/-- The XRI without its scheme. -/
def withoutScheme (xri : Text) : Text := (Text.dropStart? scheme xri).getD xri

/-- The XRI with its scheme. -/
def withScheme (xri : Text) : Text := if Text.startsWith scheme xri then xri else scheme ++ xri

/-- The depth of cross-references after a character. -/
def depthAfter (depth : Nat) (c : Char) : Nat :=
  if c = '(' then depth + 1 else if c = ')' then depth - 1 else depth

/-- One character in IRI-normal form, at a depth of cross-references. -/
def escapeChar (depth : Nat) (c : Char) : Text :=
  -- At any depth, or the escapes below could not be told from those in the text.
  if c = '%' then "%25"
  -- Outside of cross-references the delimiters keep their meaning.
  else if depth = 0 then [c]
  else if c = '/' then "%2F"
  else if c = '?' then "%3F"
  else if c = '#' then "%23"
  else [c]

/-- Escapes a text that begins at a depth of cross-references. -/
def escapeFrom (depth : Nat) : Text → Text
  | [] => []
  | c :: rest => escapeChar depth c ++ escapeFrom (depthAfter depth c) rest

/-- Escapes percent signs, and the delimiters of URIs inside cross-references. -/
def escape (xri : Text) : Text := escapeFrom 0 xri

/-- The IRI-normal form. -/
def iriNormal (xri : Text) : Text := escape (withScheme xri)

/-- One character as URIs carry it: octet by octet in triplets when it is not ASCII. -/
def uriChar (c : Char) : Text :=
  if c.toNat < 0x80 then [c] else (String.utf8EncodeChar c).flatMap Text.percentOctet

/-- An IRI as a URI. -/
def iriToUri (iri : Text) : Text := iri.flatMap uriChar

/-- The URI-normal form. -/
def uriNormal (xri : Text) : Text := iriToUri (iriNormal xri)

/-- Whether one identifier is another one without its last segment. -/
def isAuthoritative (provider canonical : Text) : Bool :=
  match Text.splitLast '!' canonical with
  | some (parent, _) => parent = provider
  | none => false

/-- The text up to the parenthesis that closes the first one, or all of it when none does. -/
def crossReference (depth : Nat) : Text → Text
  | [] => []
  | c :: rest =>
    if c = ')' ∧ depth ≤ 1 then [c] else c :: crossReference (depthAfter depth c) rest

/-- The root authority of an XRI, with the scheme. -/
def rootAuthority (xri : Text) : Text :=
  -- The first slash ends the authority, even one inside a cross-reference.
  let authority := Text.before '/' (withoutScheme xri)
  let root :=
    match authority with
    | [] => []
    | c :: _ =>
      if c = '(' then crossReference 0 authority
      else if sigils.contains c then [c]
      else authority.takeWhile fun c => c ≠ '!' ∧ c ≠ '*'
  withScheme root

end RelyingParty.Xri
