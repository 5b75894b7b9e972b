import RelyingParty.Uri
import RelyingParty.Url.Host
import RelyingParty.Url.Path

/-! URLs as clients of the web read them: forgiving, resolved against a base, and written in one
form. -/

namespace RelyingParty

/-- A URL; all of its parts are escaped, and a port is kept only when it is not the usual one. -/
structure Url where
  scheme : Text
  username : Text
  password : Option Text
  host : Option Host
  port : Option Nat
  path : Url.Path
  query : Option Text
  fragment : Option Text
  deriving DecidableEq, Repr

namespace Url

/-- How the URLs of a scheme are read. -/
inductive Kind where
  | web (usualPort : Nat)
  | file
  | other
  deriving DecidableEq, Repr

/-- The kind of a scheme. -/
def kindOf (scheme : Text) : Kind :=
  if scheme = "http" ∨ scheme = "ws" then .web 80
  else if scheme = "https" ∨ scheme = "wss" then .web 443
  else if scheme = "ftp" then .web 21
  else if scheme = "file" then .file
  else .other

/-- Whether a character separates segments. -/
def Kind.isSlash (kind : Kind) (c : Char) : Bool := c = '/' || (kind ≠ .other && c = '\\')

/-- The parts of a written URL, before they are understood. -/
structure Written where
  hierarchy : Text
  query : Option Text
  fragment : Option Text

namespace Written

/-- Takes a text apart; blanks around it, tabs and line breaks are passed over. -/
def ofText (text : Text) : Written :=
  let visible := (Text.trimWhere (· ≤ ' ') text).filter fun c => c ≠ '\t' && c ≠ '\n' && c ≠ '\r'
  let (rest, fragment) := Text.cutTail '#' visible
  let (hierarchy, query) := Text.cutTail '?' rest
  ⟨hierarchy, query, fragment⟩

/-- The scheme in lower case and what follows its colon. -/
def scheme? (written : Written) : Option (Text × Text) :=
  match Text.splitFirst ':' written.hierarchy with
  | some (name, rest) => if Scheme.isName name then some (Text.asciiLower name, rest) else none
  | none => none

/-- The escaped query. -/
def escapedQuery (kind : Kind) (written : Written) : Option Text :=
  written.query.map (escape fun c => isUnsafeInQuery c || (kind ≠ .other && c = '\x27'))

/-- The escaped fragment. -/
def escapedFragment (written : Written) : Option Text :=
  written.fragment.map (escape isUnsafeInFragment)

end Written

/-- The host, and the port after a colon that is not between brackets. -/
def splitPort (bracketed : Bool) : Text → Text × Option Text
  | [] => ([], none)
  | c :: rest =>
    if c = ':' && !bracketed then ([], some rest)
    else
      -- Brackets do not nest; the last one seen decides.
      let (host, port) := splitPort (c = '[' || (bracketed && c ≠ ']')) rest
      (c :: host, port)

/-- The number of a port, unless it is the usual one. -/
def portOf (kind : Kind) (text : Option Text) : Except UrlFault (Option Nat) :=
  match text with
  | none => .ok none
  | some [] => .ok none
  | some digits =>
    match (Text.digits? 10 digits).filter (· < 65536) with
    | some port => .ok (if kind = .web port then none else some port)
    | none => .error .invalidPort

/-- The segments of a path that is empty or begins with a slash. -/
def segmentsOf (kind : Kind) (text : Text) : List Text :=
  match text with
  | [] => if kind = .other then [] else [[]]
  | _ :: rest => follow [] (Text.splitWhere kind.isSlash rest)

/-- Whether a host is there but empty. -/
def isNoHost (host : Host) : Bool := host = .plain []

/-- The user name and the password of what stands before the at sign. -/
def credentialsOf (userinfo : Option Text) : Text × Option Text :=
  match userinfo with
  | none => ([], none)
  | some text =>
    let (name, password) := Text.cutTail ':' text
    (escape isUnsafeInCredentials name,
      (password.filter (· ≠ [])).map (escape isUnsafeInCredentials))

/-- Reads what follows the two slashes before a host. -/
def ofAuthority (scheme text : Text) (written : Written) : Except UrlFault Url := do
  let kind := kindOf scheme
  let authority := text.takeWhile fun c => !kind.isSlash c
  let path := text.dropWhile fun c => !kind.isSlash c
  let (userinfo, hostPort) := Uri.splitUserinfo authority
  let (hostText, portText) := splitPort false hostPort
  let host ← if kind = .other then Host.parsePlain hostText else Host.parse hostText
  -- An empty host takes neither credentials nor a port.
  if isNoHost host && (userinfo.isSome || portText.isSome) then throw .emptyHost
  let port ← portOf kind portText
  let (username, password) := credentialsOf userinfo
  return {
    scheme, username, password, host, port
    path := .rooted (segmentsOf kind path)
    query := written.escapedQuery kind
    fragment := written.escapedFragment
  }

/-- The URL of a path without a host. -/
def ofPath (scheme : Text) (host : Option Host) (path : Path) (written : Written) : Url where
  scheme
  username := []
  password := none
  host
  port := none
  path
  query := written.escapedQuery (kindOf scheme)
  fragment := written.escapedFragment

/-- The host of a file; the own one is not named. -/
def fileHost (text : Text) : Except UrlFault Host :=
  if text = [] then .ok (.plain [])
  else
    (Host.parse text).map fun host => if host = .domain "localhost" then .plain [] else host

/-- Reads the URL of a file. -/
def ofFile (scheme text : Text) (written : Written) : Except UrlFault Url := do
  let isSlash := Kind.isSlash .file
  match text with
  | first :: second :: rest =>
    if isSlash first && isSlash second then
      let host ← fileHost (rest.takeWhile fun c => !isSlash c)
      let segments := segmentsOf .file (rest.dropWhile fun c => !isSlash c)
      return ofPath scheme host (.rooted (withoutEmptyStart segments)) written
    else
      return localFile isSlash
  | _ => return localFile isSlash
where
  /-- The URL of a file on the own host. -/
  localFile (isSlash : Char → Bool) : Url :=
    ofPath scheme (some (.plain []))
      (.rooted (withoutEmptyStart (follow [] (Text.splitWhere isSlash text)))) written

/-- Reads what follows a scheme. -/
def ofScheme (scheme text : Text) (written : Written) : Except UrlFault Url :=
  match kindOf scheme with
  -- Any number of slashes leads to the host, even none.
  | .web port => ofAuthority scheme (text.dropWhile (Kind.web port).isSlash) written
  | .file => ofFile scheme text written
  | .other =>
    match Text.dropStart? "//" text, text with
    | some rest, _ => ofAuthority scheme rest written
    | none, '/' :: _ => .ok (ofPath scheme none (.rooted (segmentsOf .other text)) written)
    | none, _ => .ok (ofPath scheme none (.plain (escape isUnprintable text)) written)

/-- Reads a URL. -/
def parse (text : Text) : Except UrlFault Url :=
  let written := Written.ofText text
  match written.scheme? with
  | some (scheme, rest) => ofScheme scheme rest written
  | none => .error .relativeWithoutBase

/-- The URL with the path, query and fragment that are written. -/
def withPath (base : Url) (segments : List Text) (written : Written) : Url :=
  { base with
    path := .rooted segments
    query := written.escapedQuery (kindOf base.scheme)
    fragment := written.escapedFragment }

/-- Resolves what is written without a scheme against a base whose path has segments. -/
def ofRelative (base : Url) (reached : List Text) (written : Written) : Except UrlFault Url :=
  let kind := kindOf base.scheme
  match written.hierarchy with
  | [] =>
    -- The query of the base stays unless there is a new one; its fragment never does.
    let query := if written.query.isSome then written.escapedQuery kind else base.query
    .ok { base with query, fragment := written.escapedFragment }
  | first :: rest =>
    if !kind.isSlash first then
      .ok (withPath base (follow reached.dropLast (Text.splitWhere kind.isSlash (first :: rest)))
        written)
    -- Two slashes begin an authority, and only the scheme of the base is kept.
    else if rest.head?.any kind.isSlash then
      let authority :=
        (Text.dropStart? "//" (first :: rest)).getD ((first :: rest).dropWhile kind.isSlash)
      ofAuthority base.scheme authority written
    else .ok (withPath base (follow [] (Text.splitWhere kind.isSlash rest)) written)

/-- Whether a scheme is followed by what is relative to a base of the same scheme. -/
def isRelativeAfter (base : Url) (scheme rest : Text) : Bool :=
  match kindOf scheme with
  | .web port =>
    scheme = base.scheme && (rest.takeWhile (Kind.web port).isSlash).length < 2
  | _ => false

/-- Resolves what is written without a scheme against a base. -/
def ofReference (base : Url) (written : Written) : Except UrlFault Url :=
  match base.path with
  | .rooted reached => ofRelative base reached written
  | .plain _ =>
    -- Such a path has no segments to follow, but a fragment may still be replaced.
    if written.hierarchy = [] ∧ written.query = none ∧ written.fragment.isSome then
      .ok { base with fragment := written.escapedFragment }
    else .error .relativeToPlainPath

/-- Reads a URL that may be relative to a base. -/
def resolve (base : Url) (text : Text) : Except UrlFault Url :=
  let written := Written.ofText text
  match written.scheme? with
  | some (scheme, rest) =>
    -- A web URL may repeat the scheme of its base in front of what is relative.
    if isRelativeAfter base scheme rest then ofReference base { written with hierarchy := rest }
    else ofScheme scheme rest written
  | none => ofReference base written

/-- The user name and the password with their at sign. -/
def renderCredentials (url : Url) : Text :=
  match url.username, url.password with
  | [], none => []
  | name, none => name ++ ['@']
  | name, some password => name ++ ':' :: password ++ ['@']

/-- What stands between the scheme and the path; a path without a host may not begin with two
slashes. -/
def renderAuthority (url : Url) : Text :=
  match url.host, url.path with
  | some host, _ =>
    "//".toList ++ url.renderCredentials ++ host.render ++
      (match url.port with | some port => ':' :: Text.ofNat port | none => [])
  | none, .rooted ([] :: _ :: _) => "/."
  | none, _ => []

/-- A URL as it is written. -/
def render (url : Url) : Text :=
  url.scheme ++ ':' :: url.renderAuthority ++ url.path.render
    ++ (match url.query with | some query => '?' :: query | none => [])
    ++ (match url.fragment with | some fragment => '#' :: fragment | none => [])

/-- Whether a URL is one of HTTP, with or without encryption. -/
def isHttp (url : Url) : Bool := url.scheme = "http" || url.scheme = "https"

end Url

end RelyingParty
