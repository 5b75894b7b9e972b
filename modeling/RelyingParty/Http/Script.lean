import RelyingParty.Http.Plain

/-! A scripted peer answers from a list of exchanges and keeps what it has seen. -/

namespace RelyingParty

/-- What is said about the length of a body before it comes. -/
inductive BodyLength where
  | measured
  | stated (length : Nat)
  | untold
  deriving DecidableEq, Repr

/-- One exchange: which requests it answers, and how. -/
structure Exchange where
  url : Text
  method : Option Text
  status : Nat
  headers : List (Text × Octets)
  body : Octets
  length : BodyLength
  isOnce : Bool
  hangsUp : Bool
  deriving DecidableEq, Repr

namespace Exchange

/-- Whether an exchange answers a request. -/
def answers (sent : Sent) (exchange : Exchange) : Bool :=
  exchange.url = sent.url && exchange.method.all (· = sent.method)

/-- The octets that are promised, when the end of the connection does not decide. -/
def declaredLength (exchange : Exchange) : Option Nat :=
  match exchange.length with
  | .measured => some exchange.body.length
  | .stated length => some length
  | .untold => none

/-- The reply of an exchange; two statuses never come with a body. -/
def reply (exchange : Exchange) : Reply :=
  if exchange.status = 204 ∨ exchange.status = 304 then
    ⟨exchange.status, exchange.headers, none, [], false⟩
  else
    -- A declared length cuts the body off, or promises more of it than there is.
    let promised := exchange.declaredLength.getD exchange.body.length
    ⟨exchange.status, exchange.headers, exchange.declaredLength, [exchange.body.take promised],
      exchange.body.length < promised⟩

end Exchange

/-- The exchanges that are left and the requests seen, the last one first. -/
structure Script where
  exchanges : List Exchange
  seen : List Sent
  deriving Repr

namespace Script

/-- The script of some exchanges, before any request. -/
def ofExchanges (exchanges : List Exchange) : Script := ⟨exchanges, []⟩

/-- Answers by the first exchange that fits, which may be gone afterwards. -/
def answer : Peer Script := fun sent script =>
  let seen := sent :: script.seen
  match script.exchanges.find? (·.answers sent) with
  | none => (none, { script with seen })
  | some exchange =>
    -- An exchange for one request is gone behind it.
    let exchanges :=
      if exchange.isOnce then script.exchanges.eraseP (·.answers sent) else script.exchanges
    (if exchange.hangsUp then none else some exchange.reply, ⟨exchanges, seen⟩)

/-- The transport to a scripted peer. -/
def peer : Transport Script := answer.transport

end Script

end RelyingParty
