import Mathlib.Data.List.Permutation
import RelyingParty.Proofs.Filter.Turns

/-! A filter that is assembled from parts gives what the parts give one behind the other, however
they are nested: the grouping of filters and rules changes neither endpoints nor faults. -/

namespace RelyingParty

variable {ε : Type}

/-- The rule of a part that is a rule or a prototype. -/
def FilterPart.rule? : FilterPart ε → Option (Rule ε)
  | .rule own => some own
  | .prototype kind => some kind.rebuild
  | .filter _ => none
  | .list _ => none

/-- Whether an answer leaves a candidate to the next rule. -/
def declines : Except FilterFault (Option ε) → Bool
  | .ok none => true
  | _ => false

/-- The first of some answers that does not decline. -/
def firstAnswer (answers : List (Except FilterFault (Option ε))) : Except FilterFault (Option ε) :=
  (answers.find? (!declines ·)).getD (.ok none)

/-- The results of some rules for the URIs of a service, by the priority of the URIs. -/
def uriResults (yadisUrl : Text) (service : Service) (rules : List (Rule ε)) :
    List (Except FilterFault (List ε)) :=
  (service.candidates yadisUrl).map fun candidate =>
    (firstAnswer (rules.map fun rule => rule candidate)).map Option.toList

mutual

/-- The results of the filters and lists among some parts, in order. -/
def FilterPart.resultsOf (yadisUrl : Text) (service : Service) :
    List (FilterPart ε) → List (Except FilterFault (List ε))
  | [] => []
  | part :: rest => part.results yadisUrl service ++ FilterPart.resultsOf yadisUrl service rest

/-- The result of a filter, or that of a list: what its own filters and lists give in turn, and
behind them its rules. -/
def FilterPart.results (yadisUrl : Text) (service : Service) :
    FilterPart ε → List (Except FilterFault (List ε))
  -- Rules give nothing by themselves: the list around them gathers them behind its filters.
  | .rule _ => []
  | .prototype _ => []
  | .filter single => [single.endpoints yadisUrl service]
  | .list parts =>
    [inTurn (FilterPart.resultsOf yadisUrl service parts ++
      uriResults yadisUrl service (parts.filterMap FilterPart.rule?))]

end

/-- What is evaluated of some parts: the filters and lists, in order, and then, URI by URI, the
rules until one accepts it. Without rules the URIs give nothing. -/
def FilterPart.turns (yadisUrl : Text) (service : Service) (parts : List (FilterPart ε)) :
    List (Except FilterFault (List ε)) :=
  FilterPart.resultsOf yadisUrl service parts ++
    uriResults yadisUrl service (parts.filterMap FilterPart.rule?)

/-- The endpoint of a candidate is the first answer of a rule that does not decline it. -/
theorem firstEndpoint_eq (candidate : Candidate) (rules : List (Rule ε)) :
    firstEndpoint candidate rules = firstAnswer (rules.map fun rule => rule candidate) := by
  induction rules with
  | nil => rfl
  | cons rule rest ih =>
    rw [firstEndpoint, List.map_cons]
    -- Only an answer that declines leaves the candidate to the rest of the rules.
    cases answer : rule candidate with
    | error fault => rfl
    | ok found =>
      cases found with
      | none => exact ih
      | some endpoint => rfl

namespace Filter

variable {yadisUrl : Text} {service : Service}

/-- Rules alone give the results of the URIs in turn. -/
theorem endpoints_transform (rules : List (Rule ε)) :
    endpoints yadisUrl service (transform rules) = inTurn (uriResults yadisUrl service rules) := by
  simp only [endpoints, ruledEndpoints_eq, uriResults, firstEndpoint_eq]

/-- No rules give nothing, for any URI. -/
theorem inTurn_uriResults_nil :
    inTurn (uriResults yadisUrl service ([] : List (Rule ε))) = .ok [] := by
  -- Each URI has a result without endpoints.
  rw [← endpoints_transform, endpoints]
  induction service.candidates yadisUrl with
  | nil => rfl
  | cons candidate rest ih => rw [ruledEndpoints, firstEndpoint, ih]; rfl

/-- An assembled filter gives what its filters and its rules give, in turn. -/
theorem endpoints_assemble (filters : List (Filter ε)) (rules : List (Rule ε)) :
    endpoints yadisUrl service (assemble filters rules) =
      inTurn (filters.map (endpoints yadisUrl service) ++ uriResults yadisUrl service rules) := by
  -- A single filter stands for itself, and several are asked one behind the other.
  have together : endpoints yadisUrl service (assemble filters rules) =
      inTurn ((filters ++ if rules.isEmpty then [] else [transform rules]).map
        (endpoints yadisUrl service)) := by
    unfold assemble
    split
    · next single => rw [single, List.map_singleton, inTurn_singleton]
    · rw [endpoints, allEndpoints_eq]
  -- Rules behind them are one filter more, and without any there is nothing to add.
  rw [together, List.map_append, inTurn_append, inTurn_append _ (uriResults ..)]
  cases rules with
  | nil => rw [inTurn_uriResults_nil]; rfl
  | cons rule rest => rw [← endpoints_transform, ← inTurn_singleton (endpoints ..)]; rfl

/-- The rules among some parts are those of its rules and prototypes. -/
theorem rulesOf_eq (parts : List (FilterPart ε)) :
    rulesOf parts = parts.filterMap FilterPart.rule? := by
  -- Part by part.
  refine congrArg (fun rule? => parts.filterMap rule?) (funext fun part => ?_)
  cases part <;> rfl

mutual

/-- The filters among some parts give the results of the parts. -/
theorem map_endpoints_filtersOf : ∀ parts : List (FilterPart ε),
    (filtersOf parts).map (endpoints yadisUrl service) =
      FilterPart.resultsOf yadisUrl service parts
  | [] => rfl
  | part :: rest => by
    rw [filtersOf, FilterPart.resultsOf, List.map_append, map_endpoints_filterOf part,
      map_endpoints_filtersOf rest]

/-- The filter of a part gives the result of the part. -/
theorem map_endpoints_filterOf : ∀ part : FilterPart ε,
    (filterOf part).map (endpoints yadisUrl service) = part.results yadisUrl service
  | .rule _ => rfl
  | .prototype _ => rfl
  | .filter _ => rfl
  | .list parts => by
    rw [filterOf, FilterPart.results, List.map_singleton, endpoints_assemble,
      map_endpoints_filtersOf parts, rulesOf_eq]

end

/-- The filters among some parts do not depend on the rules between them. -/
theorem filtersOf_eq (parts : List (FilterPart ε)) :
    filtersOf parts = filtersOf (parts.filter (·.rule?.isNone)) := by
  -- By induction on the parts: a rule or a prototype is no filter, and the others stay.
  induction parts with
  | nil => rfl
  | cons part rest ih =>
    cases part with
    | rule own => exact ih
    | prototype kind => exact ih
    | filter single => exact congrArg (single :: ·) ih
    | list parts => exact congrArg (assemble (filtersOf parts) (rulesOf parts) :: ·) ih

/-- A filter of parts gives what the parts give in order, whatever they are nested in: first the
filters and lists, and behind them the rules. It fails with the first fault on the way. A list that
holds all parts changes nothing, and neither do the places of rules among filters and lists. -/
theorem endpoints_ofParts (yadisUrl : Text) (service : Service) (parts : List (FilterPart ε)) :
    (ofParts parts).endpoints yadisUrl service = inTurn (FilterPart.turns yadisUrl service parts) ∧
      (∀ fault, (ofParts parts).endpoints yadisUrl service = .error fault ↔
        ∃ (lists : List (List ε)) (back : List (Except FilterFault (List ε))),
          FilterPart.turns yadisUrl service parts = lists.map .ok ++ .error fault :: back) ∧
      ofParts [.list parts] = ofParts parts ∧
      ∀ moved : List (FilterPart ε),
        moved.filterMap FilterPart.rule? = parts.filterMap FilterPart.rule? →
        moved.filter (·.rule?.isNone) = parts.filter (·.rule?.isNone) →
        ofParts moved = ofParts parts := by
  have evaluated : (ofParts parts).endpoints yadisUrl service =
      inTurn (FilterPart.turns yadisUrl service parts) := by
    rw [ofParts, endpoints_assemble, map_endpoints_filtersOf, rulesOf_eq, FilterPart.turns]
  refine ⟨evaluated, fun fault => ?_, rfl, fun moved rules others => ?_⟩
  · rw [evaluated, ← inTurn_eq_error_iff, Except.map_id, List.map_id]
  · -- Both the filters and the rules of an assembled filter are the same.
    rw [ofParts, ofParts, rulesOf_eq, rulesOf_eq, rules, filtersOf_eq moved, others,
      ← filtersOf_eq parts]

/-- A rule that stands in front of a list fails behind it: the fault is the one of the list, at the
URI of the first priority, and so it is with the rule moved past the list. -/
theorem endpoints_ofParts_moved :
    let service : Service :=
      ⟨none, [], [⟨some 2, "http://late/"⟩, ⟨some 1, "http://early/"⟩], [], []⟩
    let outer : FilterPart Text := .rule fun _ => .error ⟨"outer"⟩
    let inner : FilterPart Text :=
      .list [.prototype ⟨fun candidate => .error ⟨candidate.uri⟩⟩, .filter (.transform [])]
    (ofParts [outer, inner]).endpoints "http://y/" service = .error ⟨"http://early/"⟩ ∧
      ofParts [inner, outer] = ofParts [outer, inner] := by
  intro service outer inner
  obtain ⟨evaluated, _, _, moved⟩ := endpoints_ofParts "http://y/" service [outer, inner]
  -- The reference evaluation computes, and both lists have the same rules and filters.
  exact ⟨evaluated.trans (by cbv), moved [inner, outer] rfl rfl⟩

end Filter

end RelyingParty
