import RelyingParty.Http
import RelyingParty.Filter
import RelyingParty.Uri

/-! What can go wrong while identifiers are discovered and realms are verified. -/

namespace RelyingParty

/-- Why a URL could not be discovered; callers may state causes of their own. -/
inductive DiscoveryCause where
  | transport (fault : TransportFault)
  | status (code : Nat)
  | notXrds (contentType : Option Text)
  | document (fault : XrdsFault)
  | filter (fault : FilterFault)
  | scheme
  | resolver (xri : Text) (fault : TransportFault)
  | resolverStatus (xri : Text) (code : Nat)
  | stated (message : Text) (code : Option Nat)
  deriving DecidableEq, Repr

namespace DiscoveryCause

/-- The message of a cause. -/
def message : DiscoveryCause → Text
  | transport fault => fault.message
  | status code =>
    "HTTP response status was ".toList ++ Text.ofNat code ++ ", expected 200 or 206"
  | notXrds contentType =>
    "XRDS location did not return an XRDS document (content-type ".toList ++
      contentType.getD "missing" ++ ")"
  | document fault => fault.message
  | filter fault => fault.message
  | scheme => "URI scheme is not HTTP or HTTPS"
  | resolver xri fault => "Could not fetch ".toList ++ xri ++ ", " ++ fault.message
  | resolverStatus xri _ => "Could not fetch ".toList ++ xri
  | stated message _ => message

/-- The status of the response that is the cause. -/
def status? : DiscoveryCause → Option Nat
  | status code => some code
  | resolverStatus _ code => some code
  | stated _ code => code
  | _ => none

end DiscoveryCause

/-- Why a session value could not be read or stored. -/
inductive SessionFault where
  | serialization (message : Text)
  | backend (message : Text)
  deriving DecidableEq, Repr

/-- The message of a session fault. -/
def SessionFault.message : SessionFault → Text
  | serialization message => "Serialization error: ".toList ++ message ++ "."
  | backend message => "Backend failure: ".toList ++ message ++ "."

/-- Why a call of the library fails. -/
inductive Fault where
  | malformedUri (uri : Text) (fault : UriFault)
  | xrds (fault : XrdsFault)
  | discovery (url : Text) (cause : DiscoveryCause)
  | realmRedirected (relyingPartyUrl finalUrl : Text)
  | session (fault : SessionFault)
  | cursorExists (yadisUrl : Text)
  deriving DecidableEq, Repr

/-- The message of a fault. -/
def Fault.message : Fault → Text
  | malformedUri uri fault => "Malformed URI \x60".toList ++ uri ++ "\x60: " ++ fault.reason ++ "."
  | xrds fault => fault.message
  | discovery url cause => "Discovery failed for ".toList ++ url ++ ": " ++ cause.message ++ "."
  | realmRedirected relyingPartyUrl finalUrl =>
    "Attempting to verify ".toList ++ relyingPartyUrl ++ " resulted in redirect to " ++ finalUrl ++
      "."
  | session fault => fault.message
  | cursorExists yadisUrl => "A discovery cursor for ".toList ++ yadisUrl ++ " already exists."

/-- The fault of a call that applies a filter to the document of a URL. -/
def ApplyFault.fault (yadisUrl : Text) : ApplyFault → Fault
  | document fault => .xrds fault
  | filter fault => .discovery yadisUrl (.filter fault)

/-- The endpoints of the document of a URL. -/
def Filter.endpointsOfDocument {ε : Type} (filter : Filter ε) (yadisUrl text : Text) :
    Except Fault (List ε) :=
  (filter.apply yadisUrl text).mapError (ApplyFault.fault yadisUrl)

/-- The normal form of a URL, without its fragment. -/
def normalUrl (url : Text) : Except Fault Text :=
  (Uri.normalizeWithoutFragment url).mapError (.malformedUri url)

end RelyingParty
