import RelyingParty.Uri.Escape
import RelyingParty.Uri.Path

/-! HTTP URIs in normal form, the form in which URLs are compared. -/

namespace RelyingParty

/-- The schemes that relying parties follow. -/
inductive Scheme where
  | http
  | https
  deriving DecidableEq, Repr

namespace Scheme

/-- The scheme as written in lower case. -/
def text : Scheme → Text
  | http => "http"
  | https => "https"

/-- The port in effect when none is written. -/
def defaultPort : Scheme → Nat
  | http => 80
  | https => 443

/-- The scheme of that name, in any case. -/
def ofText? (name : Text) : Option Scheme :=
  if Text.asciiLower name = "http" then some http
  else if Text.asciiLower name = "https" then some https
  else none

/-- Whether a name has the form of a URI scheme. -/
def isName : Text → Bool
  | [] => false
  | c :: rest => c.isAlpha && rest.all fun c => c.isAlphanum || c = '+' || c = '-' || c = '.'

end Scheme

/-- Why a text is no HTTP URI. -/
inductive UriFault where
  | forbiddenCharacter
  | noScheme
  | otherScheme
  | noHost
  | brokenEscape
  | badPort
  deriving DecidableEq, Repr

/-- The wording of a fault. -/
def UriFault.reason : UriFault → Text
  | forbiddenCharacter => "contains characters not allowed in a URI"
  | noScheme => "no scheme"
  | otherScheme => "not an HTTP or HTTPS URI"
  | noHost => "no host"
  | brokenEscape => "invalid percent-escape"
  | badPort => "invalid port"

/-- A normalized HTTP URI; a port is kept only when it differs from the default. -/
structure Uri where
  scheme : Scheme
  userinfo : Option Text
  host : Text
  port : Option Nat
  path : Text
  query : Option Text
  fragment : Option Text
  deriving DecidableEq, Repr

namespace Uri

/-- Printable ASCII without the space. -/
def isGraphic (c : Char) : Bool := '!' ≤ c ∧ c ≤ '~'

/-- The user information before the last at sign, and the host with its port. -/
def splitUserinfo (authority : Text) : Option Text × Text :=
  match Text.splitLast '@' authority with
  | some (userinfo, rest) => (some userinfo, rest)
  | none => (none, authority)

/-- The host and the text after the colon that separates the port; none when a bracket is left
open. -/
def splitPort? (hostPort : Text) : Option (Text × Option Text) :=
  match hostPort with
  -- Inside brackets colons do not separate a port.
  | '[' :: rest =>
    (Text.splitFirst ']' rest).map fun (inside, after) =>
      let literal := '[' :: inside ++ [']']
      match Text.splitFirst ':' after with
      | some (extra, port) => (literal ++ extra, some port)
      | none => (literal ++ after, none)
  | _ =>
    -- The last colon separates, so an earlier one stays in the host.
    match Text.splitLast ':' hostPort with
    | some (host, port) => some (host, some port)
    | none => some (hostPort, none)

/-- The number of a port; an empty port is none at all. -/
def portNumber? : Option Text → Option (Option Nat)
  | none => some none
  | some [] => some none
  | some text => (Text.natBelow? 65536 text).map some

/-- The host and the written port of an authority without user information. -/
def hostPort? (text : Text) : Option (Text × Option Nat) := do
  let (host, port) ← splitPort? text
  let port ← portNumber? port
  return (host, port)

/-- Reads what follows the scheme and the two slashes, triplets being canonical. -/
def ofHierarchy (scheme : Scheme) (text : Text) : Except UriFault Uri := do
  let (text, fragment) := Text.cutTail '#' text
  let (text, query) := Text.cutTail '?' text
  let authority := text.takeWhile (· ≠ '/')
  let path := text.dropWhile (· ≠ '/')
  let (userinfo, rest) := splitUserinfo authority
  let some (host, port) := hostPort? rest | throw .badPort
  -- A bad port is reported before a missing host.
  if host = [] then throw .noHost
  let path := removeDotSegments path
  return {
    scheme
    userinfo
    -- The escapes of the host are lowered along with its letters.
    host := Text.asciiLower host
    port := port.filter (· ≠ scheme.defaultPort)
    path := if path = [] then ['/'] else path
    query
    fragment
  }

/-- Reads a URI into normal form. -/
def parse (text : Text) : Except UriFault Uri := do
  if !text.all isGraphic then throw .forbiddenCharacter
  let some (name, rest) := Text.splitFirst ':' text | throw .noScheme
  if !Scheme.isName name then throw .noScheme
  let some scheme := Scheme.ofText? name | throw .otherScheme
  let some rest := Text.dropStart? "//" rest | throw .noHost
  -- All escapes are judged before anything is cut into parts.
  let some rest := canonicalEscapes? rest | throw .brokenEscape
  ofHierarchy scheme rest

/-- The port in effect. -/
def effectivePort (uri : Uri) : Nat := uri.port.getD uri.scheme.defaultPort

/-- The written form. -/
def render (uri : Uri) : Text :=
  uri.scheme.text ++ "://"
    ++ (match uri.userinfo with | some userinfo => userinfo ++ ['@'] | none => [])
    ++ uri.host
    ++ (match uri.port with | some port => ':' :: Text.ofNat port | none => [])
    ++ uri.path
    ++ (match uri.query with | some query => '?' :: query | none => [])
    ++ (match uri.fragment with | some fragment => '#' :: fragment | none => [])

/-- The normal form of a URI as text. -/
def normalize (text : Text) : Except UriFault Text := (parse text).map render

/-- The normal form of a URI without its fragment. -/
def normalizeWithoutFragment (text : Text) : Except UriFault Text :=
  (normalize text).map (Text.before '#')

end Uri

end RelyingParty
