import RelyingParty.Http

/-! A table of routes answers requests without a network. -/

namespace RelyingParty

/-- How a URL answers. -/
inductive Route where
  | respond (status : Nat) (headers : Table Text) (body : Text)
  | redirect (target : Text)
  | fail
  deriving DecidableEq, Repr

/-- Routes by URL. -/
abbrev Routes := Table Route

namespace Routes

/-- The route that responds with headers, their names in any case. -/
def respond (status : Nat) (headers : List (Text × Text)) (body : Text) : Route :=
  .respond status (Table.ofPairs (headers.map fun header => (Text.asciiLower header.1, header.2)))
    body

/-- Follows routes from a URL; `left` is the number of redirects that may still be followed. -/
def follow (routes : Routes) (limit : Nat) : (left : Nat) → (url : Text) →
    Except TransportFault Response
  | left, url =>
    match Table.get? url routes with
    | some (.respond status headers body) => .ok ⟨status, headers, body, url⟩
    | some (.redirect target) =>
      -- A redirect that may not be followed is a fault of the URL that redirects.
      match left with
      | 0 => .error (.tooManyRedirects url limit)
      | left + 1 => follow routes limit left target
    | some .fail => .error (.network url)
    | none => .error .io

/-- Answers a request, following redirects up to its limit. -/
def fetch (routes : Routes) (request : Request) : Except TransportFault Response :=
  let limit := request.redirectLimit.getD defaultRedirectLimit
  routes.follow limit limit request.url

end Routes

/-- What is said about one URL while routes are made. -/
inductive Setting where
  | respond (url : Text) (status : Nat) (contentType : Option Text) (body : Text)
  | respondWithHeaders (url : Text) (status : Nat) (headers : List (Text × Text)) (body : Text)
  | redirect (url target : Text)
  | fail (url : Text)
  deriving DecidableEq, Repr

namespace Setting

/-- The URL that a setting is about. -/
def url : Setting → Text
  | respond url _ _ _ => url
  | respondWithHeaders url _ _ _ => url
  | redirect url _ => url
  | fail url => url

/-- How the URL answers; a content type is the only header of its response. -/
def route : Setting → Route
  | respond _ status contentType body =>
    Routes.respond status (contentType.toList.map fun value => ("Content-Type".toList, value)) body
  | respondWithHeaders _ status headers body => Routes.respond status headers body
  | redirect _ target => .redirect target
  | fail _ => .fail

end Setting

/-- Answers by routes, and keeps the requests that it has seen, in order. -/
structure Responder where
  routes : Routes
  requests : List Request
  deriving DecidableEq, Repr

namespace Responder

/-- The responder without any route. -/
def empty : Responder := ⟨[], []⟩

/-- The responder with one setting more, which replaces an earlier one for the same URL. -/
def set (responder : Responder) (setting : Setting) : Responder :=
  { responder with routes := Table.insert setting.url setting.route responder.routes }

/-- The responder of some settings. -/
def ofSettings (settings : List Setting) : Responder := settings.foldl set empty

/-- Answers a request and keeps it. -/
def fetch (responder : Responder) (request : Request) :
    Except TransportFault Response × Responder :=
  (responder.routes.fetch request,
    { responder with requests := responder.requests ++ [request] })

/-- The number of requests seen for a URL. -/
def hits (url : Text) (responder : Responder) : Nat :=
  responder.requests.countP fun request => request.url = url

end Responder

end RelyingParty
