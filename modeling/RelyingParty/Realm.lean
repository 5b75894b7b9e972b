import RelyingParty.Uri
import RelyingParty.Realm.TopLevel

/-! Realms are URL patterns that a relying party names in its requests. -/

namespace RelyingParty

/-- What a URL is compared by: scheme, host, port, and path with query and fragment. -/
structure Locator where
  scheme : Scheme
  host : Text
  port : Nat
  path : Text
  deriving DecidableEq, Repr

/-- A part that follows the path behind its mark; an empty part is left out. -/
def Locator.trailing (mark : Char) : Option Text → Text
  | none => []
  | some [] => []
  | some part => mark :: part

/-- What a normalized URI is compared by. -/
def Uri.locator (uri : Uri) : Locator where
  scheme := uri.scheme
  host := uri.host
  port := uri.effectivePort
  path := uri.path ++ Locator.trailing '?' uri.query ++ Locator.trailing '#' uri.fragment

/-- The locator of a URL, when it normalizes. -/
def Locator.ofText? (url : Text) : Option Locator :=
  match Uri.parse url with
  | .ok uri => some uri.locator
  | .error _ => none

/-- A parsed realm; the host of a wildcard realm stands without the wildcard label. -/
structure Realm where
  source : Text
  scheme : Scheme
  wildcard : Bool
  host : Text
  port : Nat
  path : Text
  deriving DecidableEq, Repr

namespace Realm

/-- The realm that covers every host of a scheme. -/
def everyHost (source : Text) (scheme : Scheme) : Realm where
  source
  scheme
  wildcard := true
  host := []
  port := scheme.defaultPort
  path := ['/']

/-- Reads a realm; hosts that begin with a dot and fragments are refused. -/
def parse? (source : Text) : Option Realm := do
  -- These two have no host left once the wildcard is taken off.
  if source = "http://*/" then return everyHost source .http
  if source = "https://*/" then return everyHost source .https
  -- The mark of a wildcard is looked for in the whole text, not only in front of the host.
  let wildcard := Text.includes "://*." source
  let url := if wildcard then Text.removeFirst "*." source else source
  let locator ← Locator.ofText? url
  if Text.startsWith "." locator.host || locator.path.contains '#' then none
  return {
    source
    scheme := locator.scheme
    wildcard
    host := locator.host
    port := locator.port
    path := locator.path
  }

/-- The labels of a host without the empty ones at its end. -/
def hostLabels (host : Text) : List Text :=
  ((Text.splitAll '.' host).reverse.dropWhile (· = [])).reverse

/-- The judgement of `isSane` on labels that are given from the last to the first. -/
def hasSaneLabels (wildcard : Bool) (backwards : List Text) : Bool :=
  !(backwards.take 2).any (·.contains '*') && !backwards.contains []
    && match backwards with
      | top :: second :: others =>
        isTopLevel top
          -- Below a country code, a short label such as `co` is shared by everyone.
          && !(wildcard && top.length == 2 && second.length ≤ 3 && others.isEmpty)
      | _ => false

/-- Whether a realm is narrow enough to be trusted: `localhost`, every host, or a host under a
known top-level domain that does not look like a registry. -/
def isSane (realm : Realm) : Bool :=
  if realm.host = [] then realm.wildcard
  else if realm.host = "localhost" then true
  else hasSaneLabels realm.wildcard (hostLabels realm.host).reverse

/-- The URL at which a realm describes itself: the realm as given, or `www` in place of the
wildcard. -/
def discoveryUrl (realm : Realm) : Text :=
  if realm.wildcard then
    let port := if realm.port = realm.scheme.defaultPort then [] else ':' :: Text.ofNat realm.port
    realm.scheme.text ++ "://www." ++ realm.host ++ port ++ realm.path
  else realm.source

/-- Whether the realm covers a host. -/
def coversHost (realm : Realm) (host : Text) : Bool :=
  if realm.wildcard then
    realm.host = [] || host = realm.host || Text.endsWith ('.' :: realm.host) host
  else host = realm.host

/-- The characters at which a realm path may end inside a longer path. -/
def boundaries (path : Text) : Text := if path.contains '?' then ['&'] else ['?', '/']

/-- Whether a realm path covers a path: the same one, or a start of it that ends at a boundary. -/
def coversPath (realmPath path : Text) : Bool :=
  path = realmPath
    || match Text.dropStart? realmPath path with
      | none => false
      | some rest =>
        -- The boundary either ends the realm path or begins what is left.
        realmPath.getLast?.any (boundaries realmPath).contains
          || rest.head?.any (boundaries realmPath).contains

/-- Whether a URL falls under the realm. -/
def admits (realm : Realm) (url : Text) : Bool :=
  match Locator.ofText? url with
  | none => false
  | some locator =>
    -- A host with a wildcard of its own is covered by no realm.
    locator.scheme = realm.scheme && locator.port = realm.port && !locator.host.contains '*'
      && realm.coversHost locator.host && coversPath realm.path locator.path

/-- Whether a text is a realm that is sane. -/
def isSaneText (source : Text) : Bool := (parse? source).any isSane

/-- Whether a text is a realm that admits a URL. -/
def admitsText (source url : Text) : Bool := (parse? source).any (·.admits url)

/-- Whether some pattern without a wildcard admits a return URL. -/
def returnUrlMatches (patterns : List Text) (returnTo : Text) : Bool :=
  patterns.any fun pattern =>
    (parse? pattern).any fun realm => !realm.wildcard && realm.admits returnTo

end Realm

end RelyingParty
