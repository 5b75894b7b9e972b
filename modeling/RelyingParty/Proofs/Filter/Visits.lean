import Mathlib.Data.List.Permutation
import RelyingParty.Fault
import RelyingParty.Proofs.Filter

/-! A filter visits every URI of every service of a document once: by the priority and then the
place of its service, and within the service by the priority and then the place of the URI. -/

namespace RelyingParty

section Ranking

variable {α : Type} (priority : α → Option Int)

/-- The elements of a list with their places, by priority; equal ones keep their order. -/
def ranked (list : List α) : List (α × Nat) :=
  list.zipIdx.mergeSort (List.zipIdxLE fun a b => (priority a).getD 0 ≤ (priority b).getD 0)

variable {priority} {list : List α}

/-- Without their places the elements are sorted by priority. -/
theorem map_fst_ranked : (ranked priority list).map Prod.fst = sortByPriority priority list :=
  List.mergeSort_zipIdx

/-- Every element is ranked with its place. -/
theorem mem_ranked_iff {entry : α × Nat} :
    entry ∈ ranked priority list ↔ list[entry.2]? = some entry.1 := by
  rw [ranked, List.mem_mergeSort, List.mem_zipIdx_iff_getElem?]

/-- No two elements are ranked with the same place. -/
theorem pairwise_place_ranked : (ranked priority list).Pairwise fun a b => a.2 ≠ b.2 := by
  -- Before they were sorted the places were counted up.
  have places : list.zipIdx.Pairwise fun a b => a.2 ≠ b.2 := by
    rw [← List.pairwise_map (R := (· ≠ ·)), List.zipIdx_map_snd]
    exact List.nodup_range'
  exact (List.mergeSort_perm _ _).symm.pairwise places fun other => other.symm

/-- What is ranked first has the lower priority, or the same one and the lower place. -/
theorem pairwise_ranked : (ranked priority list).Pairwise fun a b =>
    (priority a.1).getD 0 < (priority b.1).getD 0 ∨
      (priority a.1).getD 0 = (priority b.1).getD 0 ∧ a.2 < b.2 := by
  have sorted : (ranked priority list).Pairwise fun a b =>
      List.zipIdxLE (fun a b => (priority a).getD 0 ≤ (priority b).getD 0) a b = true :=
    List.pairwise_mergeSort (List.zipIdxLE_trans (by simp; omega))
      (List.zipIdxLE_total (by simp; omega)) _
  -- The places decide between equal priorities, and no two are the same.
  refine sorted.imp₂ (fun a b ordered other => ?_) pairwise_place_ranked
  simp only [List.zipIdxLE, decide_eq_true_eq] at ordered
  grind

end Ranking

/-- A URI of a service, each with its place: that of the service in its document, and that of the
URI in its service. -/
structure Visit where
  service : Service
  place : Nat
  uri : ServiceUri
  uriPlace : Nat
  deriving DecidableEq, Repr

namespace Visit

/-- Whether a visit is one of some services. -/
def IsAmong (services : List Service) (visit : Visit) : Prop :=
  services[visit.place]? = some visit.service ∧
    visit.service.uris[visit.uriPlace]? = some visit.uri

/-- Whether a visit comes before another one: by the priority of the services, their places, the
priority of the URIs and their places; a missing priority counts as zero. -/
def Precedes (first second : Visit) : Prop :=
  -- Each key counts only when all keys in front of it are equal.
  first.service.priority.getD 0 < second.service.priority.getD 0 ∨
    first.service.priority.getD 0 = second.service.priority.getD 0 ∧
      (first.place < second.place ∨
        first.place = second.place ∧
          (first.uri.priority.getD 0 < second.uri.priority.getD 0 ∨
            first.uri.priority.getD 0 = second.uri.priority.getD 0 ∧
              first.uriPlace < second.uriPlace))

/-- A visit does not come before one that comes before it. -/
theorem Precedes.asymm {first second : Visit} (before : first.Precedes second) :
    ¬ second.Precedes first := by
  -- The order is that of numbers, one after the other.
  unfold Precedes at *
  omega

/-- The candidate of a visit. -/
def candidate (yadisUrl : Text) (visit : Visit) : Candidate :=
  ⟨yadisUrl, visit.service.types, visit.uri.uri, visit.service⟩

end Visit

/-- The visits of some services, in order. -/
def visits (services : List Service) : List Visit :=
  (ranked Service.priority services).flatMap fun entry =>
    (ranked ServiceUri.priority entry.1.uris).map fun uri => ⟨entry.1, entry.2, uri.1, uri.2⟩

variable {services : List Service}

/-- Every URI of every service is visited. -/
theorem mem_visits_iff {visit : Visit} : visit ∈ visits services ↔ visit.IsAmong services := by
  -- A visit is an entry of the ranked services with one of its ranked URIs.
  simp only [visits, List.mem_flatMap, List.mem_map, mem_ranked_iff, Visit.IsAmong]
  constructor
  · rintro ⟨entry, service, uri, own, rfl⟩
    exact ⟨service, own⟩
  · rintro ⟨service, uri⟩
    exact ⟨(visit.service, visit.place), service, (visit.uri, visit.uriPlace), uri, rfl⟩

/-- The visits are in order. -/
theorem pairwise_visits : (visits services).Pairwise Visit.Precedes := by
  rw [visits, List.pairwise_flatMap]
  constructor
  · -- Within a service its URIs decide.
    intro entry _
    rw [List.pairwise_map]
    exact pairwise_ranked.imp fun ordered => .inr ⟨rfl, .inr ⟨rfl, ordered⟩⟩
  · refine pairwise_ranked.imp fun ordered => ?_
    intro first inFirst second inSecond
    obtain ⟨_, _, rfl⟩ := List.mem_map.mp inFirst
    obtain ⟨_, _, rfl⟩ := List.mem_map.mp inSecond
    exact ordered.imp_right fun same => ⟨same.1, .inl same.2⟩

/-- No visit is made twice. -/
theorem nodup_visits : (visits services).Nodup := by
  -- A visit that stood twice would precede itself.
  refine pairwise_visits.imp fun before same => ?_
  subst same
  exact before.asymm before

/-- The candidates of the visits are those of the services by priority. -/
theorem map_candidate_visits (yadisUrl : Text) (services : List Service) :
    (visits services).map (Visit.candidate yadisUrl) =
      (sortByPriority Service.priority services).flatMap (Service.candidates yadisUrl) := by
  -- A ranked list without its places is the sorted one.
  rw [visits, List.map_flatMap, ← map_fst_ranked, List.flatMap_map]
  refine List.flatMap_congr fun entry _ => ?_
  rw [List.map_map, Service.candidates, Service.sortedUris, ← map_fst_ranked, List.map_map]
  rfl

namespace Filter

variable {ε : Type}

/-- Rules are asked for one visit after the other. -/
theorem endpointsByPriority_transform (rules : List (Rule ε)) (yadisUrl : Text)
    (services : List Service) :
    (transform rules).endpointsByPriority yadisUrl services =
      inTurn (((visits services).map fun visit =>
        firstEndpoint (visit.candidate yadisUrl) rules).map (Except.map Option.toList)) := by
  let answer (candidate : Candidate) := (firstEndpoint candidate rules).map Option.toList
  -- The turns of a service are the turns of its candidates.
  have own (service : Service) : endpoints yadisUrl service (transform rules) =
      inTurn ((service.candidates yadisUrl).map answer) := by
    rw [endpoints, ruledEndpoints_eq]
  calc (transform rules).endpointsByPriority yadisUrl services
      = inTurn ((sortByPriority Service.priority services).map fun service =>
          inTurn ((service.candidates yadisUrl).map answer)) := by
        simp only [endpointsByPriority, endpointsOfServices_eq, own]
    _ = inTurn (((sortByPriority Service.priority services).flatMap
          (Service.candidates yadisUrl)).map answer) := by
        rw [List.map_flatMap, List.flatMap_def, ← inTurn_map_inTurn, List.map_map]
        rfl
    _ = _ := by rw [← map_candidate_visits, List.map_map, List.map_map]; rfl

/-- Of a document with a description a filter makes what it makes of the services of the last one,
and its fault is one of the discovery of the URL. -/
theorem endpointsOfDocument_eq {filter : Filter ε} {text : Text} {document : Xrds} {xrd : Xrd}
    (parsed : Xrds.parse text = .ok document) (own : document.xrds.getLast? = some xrd)
    (yadisUrl : Text) :
    filter.endpointsOfDocument yadisUrl text =
      (filter.endpointsByPriority yadisUrl xrd.services).mapError
        fun fault => .discovery yadisUrl (.filter fault) := by
  -- The two layers of faults are put on one after the other.
  rw [endpointsOfDocument, apply_eq parsed own]
  cases filter.endpointsByPriority yadisUrl xrd.services <;> rfl

/-- A filter of rules makes endpoints exactly when the rules fail for no visit, and these are the
endpoints that they make, in the order of the visits. -/
theorem endpointsOfDocument_transform_eq_ok_iff {rules : List (Rule ε)} {text : Text}
    {document : Xrds} {xrd : Xrd} (parsed : Xrds.parse text = .ok document)
    (own : document.xrds.getLast? = some xrd) {yadisUrl : Text} {list : List ε} :
    (transform rules).endpointsOfDocument yadisUrl text = .ok list ↔
      ∃ answers : List (Option ε),
        ((visits xrd.services).map fun visit => firstEndpoint (visit.candidate yadisUrl) rules) =
          answers.map .ok ∧ list = answers.flatMap Option.toList := by
  -- Rules are applied to the visits in turn.
  rw [endpointsOfDocument_eq parsed own, endpointsByPriority_transform, mapError_eq_ok_iff,
    inTurn_eq_ok_iff]

/-- A filter of rules fails exactly when the rules fail for a visit, and it fails for the first one
of these. -/
theorem endpointsOfDocument_transform_eq_error_iff {rules : List (Rule ε)} {text : Text}
    {document : Xrds} {xrd : Xrd} (parsed : Xrds.parse text = .ok document)
    (own : document.xrds.getLast? = some xrd) {yadisUrl : Text} {fault : Fault} :
    (transform rules).endpointsOfDocument yadisUrl text = .error fault ↔
      ∃ cause : FilterFault,
        (∃ (answers : List (Option ε)) (back : List (Except FilterFault (Option ε))),
          ((visits xrd.services).map fun visit => firstEndpoint (visit.candidate yadisUrl) rules) =
            answers.map .ok ++ .error cause :: back) ∧
        fault = .discovery yadisUrl (.filter cause) := by
  -- The first fault in turn, with the layers of the discovery around it.
  rw [endpointsOfDocument_eq parsed own, endpointsByPriority_transform, mapError_eq_error_iff]
  simp only [inTurn_eq_error_iff]

/-- The filter that takes every candidate as it is gives the candidates of the visits. -/
theorem endpointsOfDocument_basic {text : Text} {document : Xrds} {xrd : Xrd}
    (parsed : Xrds.parse text = .ok document) (own : document.xrds.getLast? = some xrd)
    (yadisUrl : Text) :
    basic.endpointsOfDocument yadisUrl text =
      .ok ((visits xrd.services).map (Visit.candidate yadisUrl)) := by
  -- Its one rule answers each visit with the candidate.
  refine (endpointsOfDocument_transform_eq_ok_iff parsed own).mpr
    ⟨(visits xrd.services).map fun visit => some (visit.candidate yadisUrl), ?_, ?_⟩
  · rw [List.map_map]
    rfl
  · rw [List.flatMap_map, List.map_eq_flatMap]
    rfl

/-- A document whose last description has services visits each of their URIs once, in the order of
priorities and places. The filter that takes every candidate as it is gives one endpoint for each
visit; rules give those that they make, or the fault of the first visit for which they fail. -/
theorem endpointsOfDocument_visits {text : Text} {document : Xrds} {xrd : Xrd}
    (parsed : Xrds.parse text = .ok document) (own : document.xrds.getLast? = some xrd)
    (yadisUrl : Text) :
    (visits xrd.services).Nodup ∧
      (∀ visit, visit ∈ visits xrd.services ↔ visit.IsAmong xrd.services) ∧
      (visits xrd.services).Pairwise Visit.Precedes ∧
      basic.endpointsOfDocument yadisUrl text =
        .ok ((visits xrd.services).map (Visit.candidate yadisUrl)) ∧
      ∀ {ε : Type} (rules : List (Rule ε)),
        (∀ list, (transform rules).endpointsOfDocument yadisUrl text = .ok list ↔
          ∃ answers : List (Option ε),
            ((visits xrd.services).map fun visit =>
              firstEndpoint (visit.candidate yadisUrl) rules) = answers.map .ok ∧
            list = answers.flatMap Option.toList) ∧
        ∀ fault, (transform rules).endpointsOfDocument yadisUrl text = .error fault ↔
          ∃ cause : FilterFault,
            (∃ (answers : List (Option ε)) (back : List (Except FilterFault (Option ε))),
              ((visits xrd.services).map fun visit =>
                firstEndpoint (visit.candidate yadisUrl) rules) =
                  answers.map .ok ++ .error cause :: back) ∧
            fault = .discovery yadisUrl (.filter cause) := by
  refine ⟨nodup_visits, fun _ => mem_visits_iff, pairwise_visits,
    endpointsOfDocument_basic parsed own yadisUrl, fun rules => ⟨fun list => ?_, fun fault => ?_⟩⟩
  · -- What rules give and where they fail is told by the candidates of the visits in turn.
    exact endpointsOfDocument_transform_eq_ok_iff parsed own
  · exact endpointsOfDocument_transform_eq_error_iff parsed own

/-- A document whose services and URIs stand in another order than that of their priorities. -/
def rankedDocument : Text :=
  "<R:XRDS xmlns:R='xri://$xrds' xmlns='xri://$xrd*($v*2.0)'><XRD><Service priority='1'>".toList ++
    "<URI priority='2'>http://d/</URI><URI>http://c/</URI></Service><Service><URI>http://b/</URI>" ++
    "</Service><Service priority='-1'><URI>http://a/</URI></Service></XRD></R:XRDS>"

/-- The visits begin with the service of negative priority, and a rule that refuses the service of
the last two fails for the first one of these. -/
theorem endpointsOfDocument_visits_ranked :
    let last : Service := ⟨some 1, [], [⟨some 2, "http://d/"⟩, ⟨none, "http://c/"⟩], [], []⟩
    let middle : Service := ⟨none, [], [⟨none, "http://b/"⟩], [], []⟩
    let first : Service := ⟨some (-1), [], [⟨none, "http://a/"⟩], [], []⟩
    let refusing : Rule Text := fun candidate =>
      if candidate.service.priority = some 1 then .error ⟨candidate.uri⟩ else .ok none
    Xrds.parse rankedDocument = .ok ⟨[⟨none, [last, middle, first]⟩]⟩ ∧
      basic.endpointsOfDocument "http://y/" rankedDocument =
        .ok [⟨"http://y/", [], "http://a/", first⟩, ⟨"http://y/", [], "http://b/", middle⟩,
          ⟨"http://y/", [], "http://c/", last⟩, ⟨"http://y/", [], "http://d/", last⟩] ∧
      (transform [refusing]).endpointsOfDocument "http://y/" rankedDocument =
        .error (.discovery "http://y/" (.filter ⟨"http://c/"⟩)) := by
  -- The order of the visits is evaluated, and the rest follows from it.
  intro last middle first refusing
  have parsed : Xrds.parse rankedDocument = .ok ⟨[⟨none, [last, middle, first]⟩]⟩ := by
    decide +kernel
  have order : visits [last, middle, first] =
      [⟨first, 2, ⟨none, "http://a/"⟩, 0⟩, ⟨middle, 1, ⟨none, "http://b/"⟩, 0⟩,
        ⟨last, 0, ⟨none, "http://c/"⟩, 1⟩, ⟨last, 0, ⟨some 2, "http://d/"⟩, 0⟩] := by cbv
  have own :
      [(⟨none, [last, middle, first]⟩ : Xrd)].getLast? = some ⟨none, [last, middle, first]⟩ :=
    rfl
  obtain ⟨_, _, _, all, ruled⟩ := endpointsOfDocument_visits parsed own "http://y/"
  rw [order] at all ruled
  exact ⟨parsed, all, ((ruled [refusing]).2 _).mpr
    ⟨⟨"http://c/"⟩, ⟨[none, none], [.error ⟨"http://d/"⟩], rfl⟩, rfl⟩⟩

end Filter

end RelyingParty
