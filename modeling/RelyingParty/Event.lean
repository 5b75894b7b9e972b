import RelyingParty.Table

/-! What discovery reports while it runs: spans, counters and log messages. -/

namespace RelyingParty

/-- The chains of discovery that are reported from attempt to outcome. -/
inductive FlowKind where
  | yadis
  | xri
  | realmVerification
  deriving DecidableEq, Repr

/-- How a chain of discovery stands. -/
inductive Outcome where
  | attempt
  | success
  | failure
  deriving DecidableEq, Repr

/-- Where endpoints come from. -/
inductive EndpointSource where
  | yadis
  | html
  | xri
  deriving DecidableEq, Repr

/-- The label of a kind of chain. -/
def FlowKind.label : FlowKind → Text
  | yadis => "yadis"
  | xri => "xri"
  | realmVerification => "realm_verification"

/-- The label of an outcome. -/
def Outcome.label : Outcome → Text
  | attempt => "attempt"
  | success => "success"
  | failure => "failure"

/-- The label of a source. -/
def EndpointSource.label : EndpointSource → Text
  | yadis => "yadis"
  | html => "html"
  | xri => "xri"

/-- What a page is scanned for. -/
inductive Event.ScanPurpose where
  | links
  | location
  deriving DecidableEq, Repr

/-- One report. -/
inductive Event where
  | entered (kind : FlowKind) (stage : Text)
  | counted (kind : FlowKind) (outcome : Outcome)
  | found (source : EndpointSource) (count : Nat)
  | realmRedirected (relyingPartyUrl finalUrl : Text)
  | returnUrlRefused (returnUrl : Text)
  | scanStopped (purpose : Event.ScanPurpose)
  | sessionValueDiscarded (key reason : Text)
  deriving DecidableEq, Repr

namespace Event

/-- A report in the terms of those who collect them. -/
inductive Signal where
  | span (name : Text) (fields : Table Text)
  | count (counter : Text) (labels : Table Text) (amount : Nat)
  | log (level message : Text) (fields : Table Text)
  deriving DecidableEq, Repr

/-- The word for what a page is scanned for. -/
def ScanPurpose.label : ScanPurpose → Text
  | links => "link"
  | location => "yadis"

/-- The counter of attempts and outcomes. -/
def flowCounter : Text := "openid_discovery_flow_total"

/-- The counter of endpoints. -/
def endpointCounter : Text := "openid_discovery_endpoints_total"

/-- The counter of discoveries without endpoints. -/
def emptyCounter : Text := "openid_discovery_empty_total"

/-- The signal of a report. -/
def signal : Event → Signal
  | entered kind stage =>
    .span "openid_discovery.flow" [("flow", kind.label), ("stage", stage)]
  | counted kind outcome =>
    .count flowCounter [("flow", kind.label), ("outcome", outcome.label)] 1
  | found source 0 => .count emptyCounter [("source", source.label)] 1
  | found source (more + 1) => .count endpointCounter [("source", source.label)] (more + 1)
  | realmRedirected relyingPartyUrl finalUrl =>
    .log "warn" "Realm discovery redirected; refusing to verify return_to."
      [("final_url", finalUrl), ("relying_party_url", relyingPartyUrl)]
  | returnUrlRefused returnUrl =>
    .log "warn" "Return_to URL does not match any realm-declared URL." [("return_to", returnUrl)]
  | scanStopped purpose =>
    .log "debug" "HTML scan stopped at malformed markup." [("purpose", purpose.label)]
  | sessionValueDiscarded key reason =>
    .log "warn" "Discarding unreadable discovery session value." [("key", key), ("reason", reason)]

end Event

end RelyingParty
