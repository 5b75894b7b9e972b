import Mathlib.Data.List.Basic
import RelyingParty.Endpoint
import RelyingParty.Proofs.Sort

/-! Which endpoints are tried first: those whose provider chooses the identifier, or else all of
them arranged by version. The arrangement loses nothing and is the only one that is stable. -/

namespace RelyingParty

/-- A list in the order of a key is told by its parts with one key each. -/
theorem eq_of_ordered_of_filter_eq {α : Type} {key : α → Nat} {list other : List α}
    (ordered : list.Pairwise fun a b => key a ≤ key b)
    (ordered' : other.Pairwise fun a b => key a ≤ key b)
    (same : ∀ n, list.filter (key · = n) = other.filter (key · = n)) : list = other := by
  induction list generalizing other with
  | nil =>
    cases other with
    | nil => rfl
    | cons b back =>
      -- The part with the key of the first element is not empty.
      have part := same (key b)
      simp at part
  | cons a front ih =>
    cases other with
    | nil =>
      have part := same (key a)
      simp at part
    | cons b back =>
      -- Each of the first elements stands in the other list too, so no key is below theirs.
      have a_le_b : key a ≤ key b := by
        have inside : b ∈ (a :: front).filter (key · = key b) := by simp [same]
        rcases List.mem_cons.mp (List.mem_of_mem_filter inside) with rfl | later
        · exact Nat.le_refl _
        · exact List.rel_of_pairwise_cons ordered later
      have b_le_a : key b ≤ key a := by
        have inside : a ∈ (b :: back).filter (key · = key a) := by simp [← same]
        rcases List.mem_cons.mp (List.mem_of_mem_filter inside) with rfl | later
        · exact Nat.le_refl _
        · exact List.rel_of_pairwise_cons ordered' later
      have one : key a = key b := Nat.le_antisymm a_le_b b_le_a
      -- So both first elements begin the part with their key, and are the same.
      have firsts := same (key a)
      rw [List.filter_cons_of_pos (by simp), List.filter_cons_of_pos (by simp [one])] at firsts
      obtain ⟨rfl, _⟩ := List.cons.inj firsts
      refine congrArg (a :: ·) (ih ordered.tail ordered'.tail fun n => ?_)
      -- What is behind them has the same parts, one without its first element.
      have parts := same n
      by_cases here : key a = n
      · rw [List.filter_cons_of_pos (by simp [here]), List.filter_cons_of_pos (by simp [here])]
          at parts
        exact (List.cons.inj parts).2
      · rwa [List.filter_cons_of_neg (by simp [here]), List.filter_cons_of_neg (by simp [here])]
          at parts

namespace Endpoint

/-- Whether the first of some types that an endpoint has stands at a place. An endpoint with none of
them has its place behind the last. -/
def RanksAt (types : List Text) (place : Nat) (endpoint : Endpoint) : Prop :=
  place ≤ types.length ∧ (∀ type ∈ types.take place, type ∉ endpoint.typeUris) ∧
    ∀ type ∈ types[place]?, type ∈ endpoint.typeUris

instance (types : List Text) (place : Nat) : DecidablePred (RanksAt types place) :=
  fun _ => inferInstanceAs (Decidable (_ ∧ _ ∧ _))

/-- An endpoint ranks at its preference, and nowhere else. -/
theorem preference_eq_iff {types : List Text} {place : Nat} {endpoint : Endpoint} :
    endpoint.preference types = place ↔ endpoint.RanksAt types place := by
  unfold preference RanksAt
  induction types generalizing place with
  | nil => simp [eq_comm]
  | cons type rest ih =>
    rw [List.findIdx_cons]
    cases has : endpoint.typeUris.contains type with
    | true =>
      -- Behind a type that the endpoint has there is no place for it.
      rw [List.contains_iff_mem] at has
      cases place with
      | zero => simp [has]
      | succ place => simp [has]
    | false =>
      -- Without the type the place is one further in the others.
      have lacks : type ∉ endpoint.typeUris := by simpa using has
      cases place with
      | zero => simp [lacks]
      | succ place => simp [lacks, ih]

/-- Whether endpoints are arranged by the first of some types that each of them has: all of them are
there as often as before, none stands behind one with a later place, and those with the same place
stand as before. -/
structure IsArrangement (types : List Text) (endpoints arranged : List Endpoint) : Prop where
  perm : arranged.Perm endpoints
  ordered : arranged.Pairwise fun first second =>
    ∀ place later, first.RanksAt types place → second.RanksAt types later → place ≤ later
  stable : ∀ place, arranged.filter (fun endpoint => endpoint.RanksAt types place) =
    endpoints.filter fun endpoint => endpoint.RanksAt types place

variable {types : List Text} {endpoints arranged : List Endpoint}

/-- An arrangement is in the order of preferences. -/
theorem ordered_iff_preference :
    (arranged.Pairwise fun first second => ∀ place later,
      first.RanksAt types place → second.RanksAt types later → place ≤ later) ↔
    arranged.Pairwise fun first second => first.preference types ≤ second.preference types := by
  -- Each endpoint has exactly one place.
  constructor
  · intro ordered
    exact ordered.imp fun before =>
      before _ _ (preference_eq_iff.mp rfl) (preference_eq_iff.mp rfl)
  · intro ordered
    refine ordered.imp fun before place later first second => ?_
    rwa [← preference_eq_iff.mpr first, ← preference_eq_iff.mpr second]

/-- Endpoints have only one arrangement. -/
theorem IsArrangement.unique {other : List Endpoint}
    (first : IsArrangement types endpoints arranged)
    (second : IsArrangement types endpoints other) : arranged = other := by
  -- At each place the arrangements have the same endpoints in the same order.
  apply eq_of_ordered_of_filter_eq (ordered_iff_preference.mp first.ordered)
    (ordered_iff_preference.mp second.ordered)
  intro place
  simpa only [preference_eq_iff] using (first.stable place).trans (second.stable place).symm

/-- An arrangement is its own arrangement. -/
theorem IsArrangement.self (arrangement : IsArrangement types endpoints arranged) :
    IsArrangement types arranged arranged where
  perm := List.Perm.refl arranged
  ordered := arrangement.ordered
  stable _ := rfl

/-- Endpoints are arranged by sorting them. -/
theorem isArrangement_arrange (types : List Text) (endpoints : List Endpoint) :
    IsArrangement types endpoints (arrange types endpoints) := by
  -- Preferences are numbers, so any two can be compared.
  have trans (a b c : Endpoint) (ab : decide (a.preference types ≤ b.preference types) = true)
      (bc : decide (b.preference types ≤ c.preference types) = true) :
      decide (a.preference types ≤ c.preference types) = true := by
    simp only [decide_eq_true_eq] at ab bc ⊢
    omega
  have total (a b : Endpoint) : (decide (a.preference types ≤ b.preference types) ||
      decide (b.preference types ≤ a.preference types)) = true := by
    simp only [Bool.or_eq_true, decide_eq_true_eq]
    omega
  refine ⟨List.mergeSort_perm endpoints _, ?_, fun place => ?_⟩
  · rw [ordered_iff_preference]
    exact (List.pairwise_mergeSort trans total endpoints).imp of_decide_eq_true
  · -- Endpoints of one place have one preference, so none of them has to stand first.
    apply filter_mergeSort trans total
    intro a b first second
    simp only [decide_eq_true_eq, ← preference_eq_iff] at first second ⊢
    omega

/-- Sorting gives the one arrangement. -/
theorem arrange_eq_iff : arrange types endpoints = arranged ↔
    IsArrangement types endpoints arranged := by
  -- Sorting arranges, and there is no other arrangement.
  constructor
  · rintro rfl
    exact isArrangement_arrange types endpoints
  · exact (isArrangement_arrange types endpoints).unique

/-- What is arranged stays as it is. -/
theorem arrange_arrange (types : List Text) (endpoints : List Endpoint) :
    arrange types (arrange types endpoints) = arrange types endpoints :=
  arrange_eq_iff.mpr (isArrangement_arrange types endpoints).self

/-- Of some endpoints one is a provider's that chooses the identifier, or none is. -/
theorem provided_or_unprovided (endpoints : List Endpoint) :
    (∃ endpoint ∈ endpoints, endpoint.isProvider = true) ∨
      ∀ endpoint ∈ endpoints, endpoint.isProvider = false := by
  -- The question is decidable, so it is asked of the list.
  cases provided : endpoints.any isProvider with
  | true => exact .inl (List.any_eq_true.mp provided)
  | false => exact .inr (by simpa using provided)

/-- The endpoints whose provider chooses the identifier are preferred where there are any. -/
theorem preferred_of_provided (provided : ∃ endpoint ∈ endpoints, endpoint.isProvider = true) :
    preferred endpoints = endpoints.filter isProvider :=
  if_pos (List.any_eq_true.mpr provided)

/-- Without them all endpoints are preferred, in their arrangement by version. -/
theorem preferred_of_unprovided
    (unprovided : ∀ endpoint ∈ endpoints, endpoint.isProvider = false) :
    preferred endpoints = arrange OpenidType.all endpoints :=
  if_neg (by simpa using unprovided)

/-- The preferred endpoints are all of them only when no provider or every provider chooses the
identifier. -/
theorem length_preferred_eq_iff :
    (preferred endpoints).length = endpoints.length ↔
      (∀ endpoint ∈ endpoints, endpoint.isProvider = true) ∨
        ∀ endpoint ∈ endpoints, endpoint.isProvider = false := by
  -- A filter that leaves nothing out, or no filter at all.
  rcases provided_or_unprovided endpoints with provided | unprovided
  · rw [preferred_of_provided provided, List.length_filter_eq_length_iff]
    refine (or_iff_left fun unprovided => ?_).symm
    obtain ⟨endpoint, inside, provider⟩ := provided
    exact Bool.false_ne_true ((unprovided endpoint inside).symm.trans provider)
  · rw [preferred_of_unprovided unprovided]
    exact iff_of_true (isArrangement_arrange _ endpoints).perm.length_eq (.inr unprovided)

/-- Some of the endpoints are preferred whenever there are any. -/
theorem preferred_eq_nil_iff : preferred endpoints = [] ↔ endpoints = [] := by
  -- The filter is used only when it leaves something.
  rcases provided_or_unprovided endpoints with provided | unprovided
  · rw [preferred_of_provided provided]
    obtain ⟨endpoint, inside, provider⟩ := provided
    have kept : endpoint ∈ endpoints.filter isProvider := List.mem_filter.mpr ⟨inside, provider⟩
    exact iff_of_false (List.ne_nil_of_mem kept) (List.ne_nil_of_mem inside)
  · rw [preferred_of_unprovided unprovided, ← List.length_eq_zero_iff,
      (isArrangement_arrange _ endpoints).perm.length_eq, List.length_eq_zero_iff]

/-- When there are endpoints whose provider chooses the identifier, these are preferred, each of
them, in their order. Otherwise all endpoints are, in their arrangement by version. What is
preferred of the preferred ones is all of them. Endpoints are arranged by any types as they are by
version: the result is their only arrangement, and arranging it again changes nothing. -/
theorem preferred_stable (endpoints : List Endpoint) :
    ((∃ endpoint ∈ endpoints, endpoint.isProvider = true) →
      preferred endpoints = endpoints.filter isProvider) ∧
    ((∀ endpoint ∈ endpoints, endpoint.isProvider = false) →
      IsArrangement OpenidType.all endpoints (preferred endpoints)) ∧
    preferred (preferred endpoints) = preferred endpoints ∧
    ∀ types, (∀ arranged,
        arrange types endpoints = arranged ↔ IsArrangement types endpoints arranged) ∧
      arrange types (arrange types endpoints) = arrange types endpoints := by
  refine ⟨preferred_of_provided, fun unprovided => ?_, ?_, fun types => ?_⟩
  · rw [preferred_of_unprovided unprovided]
    exact isArrangement_arrange OpenidType.all endpoints
  · rcases provided_or_unprovided endpoints with provided | unprovided
    · -- The providers' endpoints are still there, and nothing else is.
      rw [preferred_of_provided provided]
      obtain ⟨endpoint, inside, provider⟩ := provided
      rw [preferred_of_provided ⟨endpoint, List.mem_filter.mpr ⟨inside, provider⟩, provider⟩,
        List.filter_filter]
      simp only [Bool.and_self]
    · -- An arrangement has the same endpoints, so none of them is a provider's.
      rw [preferred_of_unprovided unprovided, preferred_of_unprovided, arrange_arrange]
      intro endpoint inside
      exact unprovided endpoint ((isArrangement_arrange _ endpoints).perm.mem_iff.mp inside)
  · exact ⟨fun arranged => arrange_eq_iff, arrange_arrange types endpoints⟩

/-- Endpoints without a type of OpenID, with one and with several, of which two rank alike. The
provider's endpoint stands alone where there is one. -/
theorem preferred_stable_mixed :
    let endpoint (url : Text) (types : List Text) := make none url types none true
    let unknown := endpoint "http://a/" ["urn:x"]
    let old := endpoint "http://b/" [OpenidType.signon10, OpenidType.signon11]
    let twin := endpoint "http://c/" [OpenidType.signon11]
    let new := endpoint "http://d/" [OpenidType.signon10, OpenidType.signon]
    let provider := endpoint "http://e/" [OpenidType.signon, OpenidType.server]
    IsArrangement OpenidType.all [unknown, old, twin, new, old]
        (preferred [unknown, old, twin, new, old]) ∧
      preferred [unknown, old, twin, new, old] = [new, old, twin, old, unknown] ∧
      preferred [new, provider, old] = [provider] := by
  intro endpoint unknown old twin new provider
  have apart : [unknown, old, twin, new, old].any isProvider = false := by decide +kernel
  have ranks : unknown.preference OpenidType.all = 4 ∧ old.preference OpenidType.all = 2 ∧
      twin.preference OpenidType.all = 2 ∧ new.preference OpenidType.all = 1 := by decide +kernel
  have order : preferred [unknown, old, twin, new, old] = [new, old, twin, old, unknown] := by
    -- Only the ranks decide, so the endpoints are not looked into any more.
    clear_value unknown old twin new
    simp [preferred, arrange, List.mergeSort, apart, ranks]
  refine ⟨(preferred_stable [unknown, old, twin, new, old]).2.1 (by decide), order, ?_⟩
  exact (preferred_stable [new, provider, old]).1 ⟨provider, by decide, by decide⟩

end Endpoint

end RelyingParty
