import RelyingParty.Table
import RelyingParty.Text.Blank

/-! HTTP requests and responses as discovery needs them, redirects already followed. -/

namespace RelyingParty

/-- A request: with a body it is a POST, without one a GET. -/
structure Request where
  url : Text
  body : Option Text
  headers : Table Text
  redirectLimit : Option Nat
  deriving DecidableEq, Repr

/-- A response, headers by lower-case name, and the URL that gave it. -/
structure Response where
  status : Nat
  headers : Table Text
  body : Text
  finalUrl : Text
  deriving DecidableEq, Repr

/-- The redirects that are followed when a request sets no limit. -/
def defaultRedirectLimit : Nat := 5

namespace Request

/-- The GET request for a URL. -/
def get (url : Text) : Request := ⟨url, none, [], none⟩

/-- The request with a header. -/
def withHeader (name value : Text) (request : Request) : Request :=
  { request with headers := Table.insert name value request.headers }

end Request

/-- A content type without its parameters, in lower case. -/
def mediaTypeOf (contentType : Text) : Text :=
  Text.asciiLower (Text.trim (Text.before ';' contentType))

namespace Response

/-- The value of a header, its name in any case. -/
def header? (name : Text) (response : Response) : Option Text :=
  Table.get? (Text.asciiLower name) response.headers

/-- The media type of the body. -/
def mediaType? (response : Response) : Option Text :=
  (response.header? "content-type").map mediaTypeOf

/-- Whether the response has the whole body, or the part that was asked for. -/
def isComplete (response : Response) : Bool := response.status = 200 || response.status = 206

end Response

/-- Why a request got no response. -/
inductive TransportFault where
  | network (url : Text)
  | tooManyRedirects (url : Text) (limit : Nat)
  | responseTooLarge (url : Text) (limit : Nat)
  | invalidUrl (url : Text)
  | io
  deriving DecidableEq, Repr

/-- The message of a fault. -/
def TransportFault.message : TransportFault → Text
  | network url => "Network error occurred while fetching ".toList ++ url ++ "."
  -- Only two faults name the bound that was passed.
  | tooManyRedirects url limit =>
    "Too many redirects while fetching ".toList ++ url ++ " (limit " ++ Text.ofNat limit ++ ")."
  | responseTooLarge url limit =>
    "Response from ".toList ++ url ++ " is larger than " ++ Text.ofNat limit ++ " bytes."
  | invalidUrl url => "Cannot fetch invalid URL ".toList ++ url ++ "."
  | io => "I/O error occurred while fetching."

end RelyingParty
