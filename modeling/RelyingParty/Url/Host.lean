import RelyingParty.Url.Domain
import RelyingParty.Url.Escape
import RelyingParty.Url.Ipv4
import RelyingParty.Url.Ipv6

/-! Hosts of URLs: names and addresses. -/

namespace RelyingParty

/-- Why a text is no URL. -/
inductive UrlFault where
  | emptyHost
  | invalidName
  | invalidPort
  | invalidIpv4
  | invalidIpv6
  | invalidHostCharacter
  | relativeWithoutBase
  | relativeToPlainPath
  deriving DecidableEq, Repr

/-- The reason of a fault. -/
def UrlFault.reason : UrlFault → Text
  | emptyHost => "empty host"
  | invalidName => "invalid international domain name"
  | invalidPort => "invalid port number"
  | invalidIpv4 => "invalid IPv4 address"
  | invalidIpv6 => "invalid IPv6 address"
  | invalidHostCharacter => "invalid domain character"
  | relativeWithoutBase => "relative URL without a base"
  | relativeToPlainPath => "relative URL with a cannot-be-a-base base"

/-- A host; outside the web it is plain text. -/
inductive Host where
  | domain (name : Text)
  | ipv4 (address : Nat)
  | ipv6 (pieces : List Nat)
  | plain (text : Text)
  deriving DecidableEq, Repr

namespace Host

/-- Reads an address between brackets. -/
def ofBracketed (text : Text) : Except UrlFault Host :=
  match text.getLast?, Ipv6.parse? text.dropLast with
  | some ']', some pieces => .ok (.ipv6 pieces)
  | _, _ => .error .invalidIpv6

/-- The host of a name in ASCII. -/
def ofAscii (name : Text) : Except UrlFault Host :=
  if name = [] then .error .emptyHost
  -- A name that ends in a number is an address or nothing.
  else if Ipv4.endsInNumber name then
    match Ipv4.parse? name with
    | some address => .ok (.ipv4 address)
    | none => .error .invalidIpv4
  else .ok (.domain name)

/-- Reads the host of a URL of the web. -/
def parse (text : Text) : Except UrlFault Host :=
  match text with
  | [] => .error .emptyHost
  | '[' :: rest => ofBracketed rest
  | _ =>
    -- Triplets are decoded first, so they may spell any character of a name.
    match (Url.textOf? (Url.unescape text)).bind Domain.toAscii? with
    | some name => ofAscii name
    | none => .error .invalidName

/-- The characters that no host holds. -/
def isForbidden (c : Char) : Bool :=
  c = '\x00' || c = '\t' || c = '\n' || c = '\r' || c = ' ' || "#/:<>?@[\\]^|".toList.contains c

/-- Reads the host of any other URL; it may be empty. -/
def parsePlain (text : Text) : Except UrlFault Host :=
  match text with
  | '[' :: rest => ofBracketed rest
  | _ =>
    if text.any isForbidden then .error .invalidHostCharacter
    else .ok (.plain (Url.escape Url.isUnprintable text))

/-- A host as it is written. -/
def render : Host → Text
  | domain name => name
  | ipv4 address => Ipv4.render address
  | ipv6 pieces => '[' :: Ipv6.render pieces ++ [']']
  | plain text => text

end Host

end RelyingParty
