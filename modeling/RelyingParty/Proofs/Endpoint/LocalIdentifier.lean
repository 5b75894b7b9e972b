import Mathlib.Data.List.Basic
import RelyingParty.Endpoint

/-! The local identifier of an endpoint is the one value that its service gives, in whatever order
and however often the service gives it. -/

namespace RelyingParty

/-- Whether two of some values differ. -/
def Divided (values : List Text) : Prop := ∃ value ∈ values, ∃ other ∈ values, value ≠ other

instance (values : List Text) : Decidable (Divided values) :=
  inferInstanceAs (Decidable (∃ value ∈ values, ∃ other ∈ values, value ≠ other))

/-- What divides some values divides more of them. -/
theorem Divided.mono {values more : List Text} (divided : Divided values)
    (included : values ⊆ more) : Divided more := by
  -- The two values that differ are among the others too.
  obtain ⟨value, inside, other, inside', differ⟩ := divided
  exact ⟨value, included inside, other, included inside', differ⟩

/-- Values that are not divided are the same. -/
theorem eq_of_not_divided {values : List Text} {value other : Text} (whole : ¬ Divided values)
    (inside : value ∈ values) (inside' : other ∈ values) : value = other := by
  -- Otherwise these two would divide them.
  by_contra differ
  exact whole ⟨value, inside, other, inside', differ⟩

/-- No values are divided when all of them are one. -/
theorem not_divided_of_forall {values : List Text} {value : Text}
    (all : ∀ other ∈ values, other = value) : ¬ Divided values := by
  -- Two values that differ cannot both be the one.
  rintro ⟨first, inside, second, inside', differ⟩
  exact differ ((all first inside).trans (all second inside').symm)

/-- Values that are all one begin with that one. -/
theorem head?_of_forall {values : List Text} {value : Text} (inside : value ∈ values)
    (all : ∀ other ∈ values, other = value) : values.head? = some value := by
  -- There is a first value, and it is the one like all others.
  cases values with
  | nil => cases inside
  | cons first rest => rw [List.head?_cons, all first (.head _)]

/-- The order of values does not divide them. -/
theorem divided_of_perm {values values' : List Text} (perm : values.Perm values') :
    Divided values ↔ Divided values' :=
  ⟨fun divided => divided.mono perm.subset, fun divided => divided.mono perm.symm.subset⟩

/-- Values that are not divided begin with the same one in every order. -/
theorem head?_of_perm {values values' : List Text} (whole : ¬ Divided values)
    (perm : values.Perm values') : values.head? = values'.head? := by
  -- Both first values are among the first list, which has just one value.
  cases values with
  | nil => rw [List.nil_perm.mp perm]
  | cons value rest =>
    cases values' with
    | nil => exact absurd perm (by simp)
    | cons value' rest' =>
      have inside : value' ∈ value :: rest := perm.symm.subset (.head _)
      rw [List.head?_cons, List.head?_cons, eq_of_not_divided whole (.head _) inside]

/-- Values that are not divided count as much as the first of them. -/
theorem divided_head?_append {front : List Text} (whole : ¬ Divided front) (back : List Text) :
    Divided (front.head?.toList ++ back) ↔ Divided (front ++ back) := by
  cases front with
  | nil => rfl
  | cons value rest =>
    -- The others in front are the first one again.
    have again : ∀ other ∈ rest, other = value := fun other inside =>
      eq_of_not_divided whole (.tail _ inside) (.head _)
    have fewer : value :: rest ++ back ⊆ value :: back := by
      rintro other (_ | ⟨_, inside⟩)
      · exact .head _
      · rcases List.mem_append.mp inside with inside | inside
        · rw [again other inside]
          exact .head _
        · exact .tail _ inside
    have more : value :: back ⊆ value :: rest ++ back :=
      List.cons_subset_cons value (List.subset_append_right rest back)
    -- Values are divided in every list that has them all.
    exact ⟨fun divided => divided.mono more, fun divided => divided.mono fewer⟩

/-- Values with one tag are taken unless they are divided, the known one among them; then the first
one is known. -/
theorem foldlM_takeValue (tag : Text) (known : Option Text) (values : List Text) :
    (values.map (tag, ·)).foldlM takeValue known =
      if Divided (known.toList ++ values) then .error (ambiguous tag)
      else .ok (known.toList ++ values).head? := by
  induction values generalizing known with
  | nil =>
    -- What is known is not divided by itself.
    cases known with
    | none => rfl
    | some value =>
      have whole : ¬ Divided [value] := not_divided_of_forall fun other inside => by
        simpa using inside
      exact (if_neg whole).symm
  | cons value rest ih =>
    rw [List.map_cons, List.foldlM_cons]
    cases known with
    | none =>
      -- The first value is known from now on.
      exact ih (some value)
    | some first =>
      by_cases same : first = value
      · -- It is found again, and nothing changes.
        subst same
        have again : Divided (first :: rest) ↔ Divided (first :: first :: rest) :=
          ⟨fun divided => divided.mono (by simp), fun divided => divided.mono (by simp)⟩
        rw [takeValue, if_pos rfl]
        exact (ih (some first)).trans (if_congr again rfl rfl)
      · rw [takeValue, if_neg same]
        have divided : Divided (first :: value :: rest) :=
          ⟨first, .head _, value, .tail _ (.head _), same⟩
        exact (if_pos divided).symm

namespace Candidate

/-- The values of the delegates of a candidate, which count with a type of version 1. -/
def delegateValues (candidate : Candidate) : List Text :=
  if OpenidType.signon11 ∈ candidate.typeUris ∨ OpenidType.signon10 ∈ candidate.typeUris then
    candidate.service.delegates
  else []

/-- The values of the local identifiers of a candidate, which count with the type of version 2. -/
def localIdValues (candidate : Candidate) : List Text :=
  if OpenidType.signon ∈ candidate.typeUris then candidate.service.localIds else []

/-- All values for the local identifier of a candidate. -/
def identifierValues (candidate : Candidate) : List Text :=
  candidate.delegateValues ++ candidate.localIdValues

/-- A wanted type is matched when the candidate has it. -/
theorem contains_matchTypes {candidate : Candidate} {wanted : List Text} {type : Text}
    (inside : type ∈ wanted) :
    (candidate.matchTypes wanted).contains type = decide (type ∈ candidate.typeUris) := by
  -- The types are filtered by what is wanted, in the order of the candidate.
  rw [Bool.eq_iff_iff, List.contains_iff_mem, decide_eq_true_iff, matchTypes, List.mem_filter,
    List.contains_iff_mem]
  exact and_iff_left inside

/-- The values of a candidate are those of its service, with their tags. -/
theorem identifierValues_eq (candidate : Candidate) :
    RelyingParty.identifierValues candidate.service (candidate.matchTypes OpenidType.all) =
      candidate.delegateValues.map ("openid:Delegate".toList, ·) ++
        candidate.localIdValues.map ("xrd:LocalID".toList, ·) := by
  -- Which types are there decides which elements are read.
  rw [RelyingParty.identifierValues, contains_matchTypes (by decide : OpenidType.signon11 ∈ _),
    contains_matchTypes (by decide : OpenidType.signon10 ∈ _),
    contains_matchTypes (by decide : OpenidType.signon ∈ _), delegateValues, localIdValues]
  simp only [Bool.or_eq_true, decide_eq_true_eq]
  split <;> split <;> rfl

/-- The local identifier of a candidate is the first of its values, unless they are divided. -/
theorem localIdentifier_eq (candidate : Candidate) :
    localIdentifier candidate.service (candidate.matchTypes OpenidType.all) =
      if Divided candidate.delegateValues then .error (ambiguous "openid:Delegate")
      else if Divided candidate.identifierValues then .error (ambiguous "xrd:LocalID")
      else .ok candidate.identifierValues.head? := by
  rw [localIdentifier, identifierValues_eq, List.foldlM_append, foldlM_takeValue,
    Option.toList_none, List.nil_append]
  by_cases delegates : Divided candidate.delegateValues
  · -- A fault among the delegates is not followed by another one.
    rw [if_pos delegates, if_pos delegates]
    rfl
  · rw [if_neg delegates, if_neg delegates]
    refine (foldlM_takeValue _ _ _).trans
      (if_congr (divided_head?_append delegates candidate.localIdValues) rfl ?_)
    cases front : candidate.delegateValues <;> simp [identifierValues, front]

/-- The endpoint of a candidate with a URI and an OpenID type. -/
theorem ofCandidate_eq {candidate : Candidate} (uri : candidate.uri ≠ [])
    (openid : ∃ type ∈ candidate.typeUris, type ∈ OpenidType.all) :
    Endpoint.ofCandidate candidate =
      if OpenidType.server ∈ candidate.typeUris then
        .ok (some (.make none candidate.uri (candidate.matchTypes OpenidType.all) none true))
      else
        (localIdentifier candidate.service (candidate.matchTypes OpenidType.all)).map fun localId =>
          some (.make (some candidate.yadisUrl) candidate.uri
            (candidate.matchTypes OpenidType.all) localId true) := by
  -- Neither of the two reasons to pass the candidate over applies.
  have matched : candidate.matchTypes OpenidType.all ≠ [] := by
    obtain ⟨type, inside, wanted⟩ := openid
    exact List.ne_nil_of_mem (List.mem_filter.mpr ⟨inside, List.contains_iff_mem.mpr wanted⟩)
  have usable : ¬ (candidate.matchTypes OpenidType.all = [] ∨ candidate.uri = []) := by
    rintro (none | none)
    · exact matched none
    · exact uri none
  rw [Endpoint.ofCandidate]
  simp only [if_neg usable, contains_matchTypes (by decide : OpenidType.server ∈ OpenidType.all),
    decide_eq_true_eq]
  rfl

/-- Whether a candidate has the URI, the types, the delegates and the local identifiers of another
one, each of these lists in any order. -/
structure Rearranges (other candidate : Candidate) : Prop where
  uri : other.uri = candidate.uri
  types : other.typeUris.Perm candidate.typeUris
  delegates : other.service.delegates.Perm candidate.service.delegates
  localIds : other.service.localIds.Perm candidate.service.localIds

/-- The delegates that count are the same ones. -/
theorem Rearranges.delegateValues {other candidate : Candidate}
    (same : other.Rearranges candidate) :
    other.delegateValues.Perm candidate.delegateValues := by
  -- The types are the same, so the delegates are read in both or in neither.
  simp only [Candidate.delegateValues, same.types.mem_iff]
  split
  · exact same.delegates
  · exact .nil

/-- So are all values. -/
theorem Rearranges.identifierValues {other candidate : Candidate}
    (same : other.Rearranges candidate) :
    other.identifierValues.Perm candidate.identifierValues := by
  -- The delegates are settled, and the local identifiers are read by their own type.
  refine same.delegateValues.append ?_
  simp only [localIdValues, same.types.mem_iff]
  split
  · exact same.localIds
  · exact .nil

/-- The local identifier, or the fault in its place, does not depend on an order. -/
theorem Rearranges.localIdentifier_eq {other candidate : Candidate}
    (same : other.Rearranges candidate) :
    localIdentifier other.service (other.matchTypes OpenidType.all) =
      localIdentifier candidate.service (candidate.matchTypes OpenidType.all) := by
  -- The order decides which value is first, and undivided values have the same first one.
  rw [other.localIdentifier_eq, candidate.localIdentifier_eq]
  refine if_congr (divided_of_perm same.delegateValues) rfl ?_
  by_cases divided : Divided other.identifierValues
  · rw [if_pos divided, if_pos ((divided_of_perm same.identifierValues).mp divided)]
  · rw [if_neg divided, if_neg (mt (divided_of_perm same.identifierValues).mpr divided),
      head?_of_perm divided same.identifierValues]

end Candidate

namespace Endpoint

/-- Of a candidate with a URI and an OpenID type an endpoint is made. That of a provider's own
service has no identifier at all. Any other one has the local identifier that all values for it
agree on, and none when there is no value; values that differ are a fault, of the delegates when
these differ already. The order of types and values changes neither the identifier nor the fault. -/
theorem ofCandidate_localIdentifier {candidate : Candidate} (uri : candidate.uri ≠ [])
    (openid : ∃ type ∈ candidate.typeUris, type ∈ OpenidType.all) :
    (OpenidType.server ∈ candidate.typeUris → ofCandidate candidate =
      .ok (some (make none candidate.uri (candidate.matchTypes OpenidType.all) none true))) ∧
    (OpenidType.server ∉ candidate.typeUris →
      let made (localId : Option Text) := make (some candidate.yadisUrl) candidate.uri
        (candidate.matchTypes OpenidType.all) localId true
      (candidate.identifierValues = [] → ofCandidate candidate = .ok (some (made none))) ∧
      (∀ value ∈ candidate.identifierValues,
        (∀ other ∈ candidate.identifierValues, other = value) →
          ofCandidate candidate = .ok (some (made (some value)))) ∧
      (Divided candidate.identifierValues → ofCandidate candidate = .error (ambiguous
        (if Divided candidate.delegateValues then "openid:Delegate" else "xrd:LocalID")))) ∧
    ∀ other : Candidate, other.Rearranges candidate →
      (ofCandidate other).map (Option.map localId) =
        (ofCandidate candidate).map (Option.map localId) := by
  have result := candidate.localIdentifier_eq
  have whole (all : ¬ Divided candidate.identifierValues) :
      ¬ Divided candidate.delegateValues := fun delegates =>
    all (delegates.mono (List.subset_append_left _ _))
  refine ⟨fun provider => ?_, fun user => ⟨fun none => ?_, fun value inside all => ?_,
    fun divided => ?_⟩, fun other same => ?_⟩
  · rw [Candidate.ofCandidate_eq uri openid, if_pos provider]
  · -- Without any value nothing is divided, and there is no first one.
    have all : ¬ Divided candidate.identifierValues := by
      rw [none]
      decide
    rw [if_neg (whole all), if_neg all, none] at result
    rw [Candidate.ofCandidate_eq uri openid, if_neg user, result]
    rfl
  · -- Values that are all one are not divided, and begin with that one.
    have all' := not_divided_of_forall all
    rw [if_neg (whole all'), if_neg all', head?_of_forall inside all] at result
    rw [Candidate.ofCandidate_eq uri openid, if_neg user, result]
    rfl
  · -- The tag of the fault is the one of the delegates when these are divided already.
    rw [if_pos divided] at result
    rw [Candidate.ofCandidate_eq uri openid, if_neg user, result]
    split <;> rfl
  · -- The other candidate has a URI and an OpenID type, too.
    have uri' : other.uri ≠ [] := same.uri ▸ uri
    have openid' : ∃ type ∈ other.typeUris, type ∈ OpenidType.all := by
      simpa only [same.types.mem_iff] using openid
    rw [Candidate.ofCandidate_eq uri' openid', Candidate.ofCandidate_eq uri openid,
      same.localIdentifier_eq]
    simp only [same.types.mem_iff]
    split
    · rfl
    · cases localIdentifier candidate.service (candidate.matchTypes OpenidType.all) <;> rfl

/-- A service of both versions whose delegates and local identifier agree, in two orders, and the
same service with another local identifier. -/
theorem ofCandidate_localIdentifier_versions :
    let candidate (localId : String) : Candidate :=
      ⟨"http://user/", [OpenidType.signon10, OpenidType.signon], "http://op/",
        ⟨none, [], [], [localId], ["http://a/", "http://a/"]⟩⟩
    let reversed : Candidate := { candidate "http://a/" with
      typeUris := [OpenidType.signon, OpenidType.signon10] }
    ofCandidate (candidate "http://a/") = .ok (some ⟨some "http://user/", "http://op/",
        [OpenidType.signon10, OpenidType.signon], some "http://a/", true, none⟩) ∧
      (ofCandidate reversed).map (Option.map localId) = .ok (some (some "http://a/")) ∧
      ofCandidate (candidate "http://b/") = .error (ambiguous "xrd:LocalID") := by
  intro candidate reversed
  have types (localId : String) : ∃ type ∈ (candidate localId).typeUris, type ∈ OpenidType.all :=
    ⟨OpenidType.signon, .tail _ (.head _), by decide⟩
  obtain ⟨-, agreeing, rearranged⟩ :=
    ofCandidate_localIdentifier (by decide : (candidate "http://a/").uri ≠ []) (types _)
  obtain ⟨-, differing, -⟩ :=
    ofCandidate_localIdentifier (by decide : (candidate "http://b/").uri ≠ []) (types _)
  have made := (agreeing (by decide)).2.1 "http://a/" (by decide) (by decide)
  -- The values agree in the first candidate and differ in the other one.
  refine ⟨made, ?_, (differing (by decide)).2.2 (by decide)⟩
  -- Only the two types are exchanged.
  rw [rearranged reversed ⟨rfl, .swap _ _ _, .refl _, .refl _⟩, made]
  rfl

end Endpoint

end RelyingParty
