import RelyingParty.Service
import RelyingParty.Xrds

/-! Filters turn the services of a document into endpoints. -/

namespace RelyingParty

/-- One URI of one service, of which a filter may make an endpoint. -/
structure Candidate where
  yadisUrl : Text
  typeUris : List Text
  uri : Text
  service : Service
  deriving DecidableEq, Repr

/-- The types of a candidate that are wanted, in the candidate's order. -/
def Candidate.matchTypes (candidate : Candidate) (wanted : List Text) : List Text :=
  candidate.typeUris.filter wanted.contains

/-- The candidates of a service, by the priority of their URIs. -/
def Service.candidates (yadisUrl : Text) (service : Service) : List Candidate :=
  service.sortedUris.map fun uri => ⟨yadisUrl, service.types, uri.uri, service⟩

/-- Why a filter refuses a document. -/
structure FilterFault where
  message : Text
  deriving DecidableEq, Repr

/-- Makes an endpoint of a candidate, or none. -/
abbrev Rule (ε : Type) := Candidate → Except FilterFault (Option ε)

/-- A kind of endpoint, which knows how to be rebuilt from a candidate. -/
structure Prototype (ε : Type) where
  rebuild : Rule ε

/-- A candidate is rebuilt as it is. -/
def Candidate.prototype : Prototype Candidate := ⟨fun candidate => .ok (some candidate)⟩

/-- A filter: rules of which the first that applies makes the endpoint of a candidate, or filters
that each make endpoints of their own. -/
inductive Filter (ε : Type) where
  | transform (rules : List (Rule ε))
  | compound (filters : List (Filter ε))

/-- What a filter is assembled from. -/
inductive FilterPart (ε : Type) where
  | rule (rule : Rule ε)
  | prototype (prototype : Prototype ε)
  | filter (filter : Filter ε)
  | list (parts : List (FilterPart ε))

/-- The endpoint of the first rule that applies to a candidate. -/
def firstEndpoint {ε : Type} (candidate : Candidate) : List (Rule ε) →
    Except FilterFault (Option ε)
  | [] => .ok none
  -- A fault of a rule ends the search, also when a later one would apply.
  | rule :: rest => do
    match ← rule candidate with
    | some endpoint => return some endpoint
    | none => firstEndpoint candidate rest

/-- The endpoints of some candidates, one at most for each. -/
def ruledEndpoints {ε : Type} (rules : List (Rule ε)) : List Candidate →
    Except FilterFault (List ε)
  | [] => .ok []
  -- A candidate without an endpoint is passed over, and one with a fault ends it all.
  | candidate :: rest => do
    let first ← firstEndpoint candidate rules
    return first.toList ++ (← ruledEndpoints rules rest)

namespace Filter

variable {ε : Type}

mutual

/-- The endpoints of a service. -/
def endpoints (yadisUrl : Text) (service : Service) : Filter ε → Except FilterFault (List ε)
  | transform rules => ruledEndpoints rules (service.candidates yadisUrl)
  | compound filters => allEndpoints yadisUrl service filters

/-- The endpoints of a service by several filters, in the order of the filters. -/
def allEndpoints (yadisUrl : Text) (service : Service) : List (Filter ε) →
    Except FilterFault (List ε)
  | [] => .ok []
  | filter :: rest => do
    let first ← endpoints yadisUrl service filter
    return first ++ (← allEndpoints yadisUrl service rest)

end

/-- The filter of one rule. -/
def ofRule (rule : Rule ε) : Filter ε := transform [rule]

/-- The filter of a prototype. -/
def ofPrototype (prototype : Prototype ε) : Filter ε := ofRule prototype.rebuild

/-- Every candidate as it is. -/
def basic : Filter Candidate := ofPrototype Candidate.prototype

/-- The rules among some parts, those of prototypes included, in order. -/
def rulesOf (parts : List (FilterPart ε)) : List (Rule ε) :=
  parts.filterMap fun part =>
    match part with
    | .rule rule => some rule
    | .prototype prototype => some prototype.rebuild
    -- Filters and lists of parts make filters of their own.
    | _ => none

/-- A filter of filters and of rules behind them; a single filter stands for itself. -/
def assemble (filters : List (Filter ε)) (rules : List (Rule ε)) : Filter ε :=
  match filters ++ (if rules.isEmpty then [] else [transform rules]) with
  | [filter] => filter
  | filters => compound filters

mutual

/-- The filters among some parts, in order; a list of parts is assembled to a filter. -/
def filtersOf : List (FilterPart ε) → List (Filter ε)
  | [] => []
  | part :: rest => filterOf part ++ filtersOf rest

/-- The filter of a part, or none for a rule or a prototype. -/
def filterOf : FilterPart ε → List (Filter ε)
  | .rule _ => []
  | .prototype _ => []
  | .filter filter => [filter]
  | .list parts => [assemble (filtersOf parts) (rulesOf parts)]

end

/-- Assembles parts: the filters and lists in order, and all rules together behind them. -/
def ofParts (parts : List (FilterPart ε)) : Filter ε := assemble (filtersOf parts) (rulesOf parts)

/-- The endpoints of some services, in order. -/
def endpointsOfServices (filter : Filter ε) (yadisUrl : Text) : List Service →
    Except FilterFault (List ε)
  | [] => .ok []
  | service :: rest => do
    let first ← filter.endpoints yadisUrl service
    return first ++ (← endpointsOfServices filter yadisUrl rest)

/-- The endpoints of some services by priority. -/
def endpointsByPriority (filter : Filter ε) (yadisUrl : Text) (services : List Service) :
    Except FilterFault (List ε) :=
  filter.endpointsOfServices yadisUrl (sortByPriority Service.priority services)

end Filter

/-- Why a document gives no endpoints. -/
inductive ApplyFault where
  | document (fault : XrdsFault)
  | filter (fault : FilterFault)
  deriving DecidableEq, Repr

/-- The endpoints of the last description of an XRDS document, its services by priority. -/
def Filter.apply {ε : Type} (filter : Filter ε) (yadisUrl text : Text) :
    Except ApplyFault (List ε) := do
  let services ← ((Xrds.parse text).bind Xrds.services).mapError .document
  (filter.endpointsByPriority yadisUrl services).mapError .filter

end RelyingParty
