import RelyingParty.Config
import RelyingParty.Discovery
import RelyingParty.Realm.Verification
import RelyingParty.Session.Manager

/-! A consumer discovers identifiers for a user, hands out their endpoints one at a time, and checks
where responses go. -/

namespace RelyingParty

/-- A consumer with its configuration. -/
structure Consumer where
  config : Config
  deriving DecidableEq, Repr

namespace Consumer

/-- Discovers an identifier and leaves the session alone. -/
def discover (consumer : Consumer) (identifier : Text) : Flow (Text × List Endpoint) :=
  Discovery.discover consumer.config.resolver identifier

/-- The manager of an identifier's cursor, under the configured key. -/
def manager (consumer : Consumer) (identifier : Text) : Manager :=
  ⟨identifier, consumer.config.sessionKeySuffix⟩

/-- Hands out the next endpoint of an identifier. -/
def next (consumer : Consumer) (identifier : Text) : Flow (Option Endpoint) :=
  (consumer.manager identifier).next .openid consumer.discover

/-- Gives the endpoint that is being tried for an identifier and removes the cursor. -/
def cleanup (consumer : Consumer) (identifier : Text) (force : Bool) : Flow (Option Endpoint) :=
  (consumer.manager identifier).cleanup .openid force

/-- Checks a URL for responses against those that a realm declares. -/
def verify (_consumer : Consumer) (realm returnUrl : Text) : Flow Bool :=
  Realm.verifyText realm returnUrl

end Consumer

end RelyingParty
