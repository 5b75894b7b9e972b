import Mathlib.Data.List.Chain
import RelyingParty.Flow
import RelyingParty.Http.Routes

/-! A fetch by routes goes from URL to URL along redirects, and the URL where it ends answers. -/

namespace RelyingParty

namespace Routes

/-- The URLs that a fetch goes through, when some redirects may be followed. -/
def trail (routes : Routes) : (left : Nat) → (url : Text) → List Text
  | left, url =>
    match Table.get? url routes with
    | some (.redirect target) =>
      match left with
      -- No redirect may be followed any more, so the trail ends at one.
      | 0 => [url]
      | left + 1 => url :: trail routes left target
    | _ => [url]

/-- The number of redirects that a fetch follows. -/
def redirects (routes : Routes) (request : Request) : Nat :=
  (routes.trail (request.redirectLimit.getD defaultRedirectLimit) request.url).length - 1

/-- What a URL answers at which a fetch ends; a redirect is one too many there. -/
def answerAt (routes : Routes) (limit : Nat) (url : Text) : Except TransportFault Response :=
  match Table.get? url routes with
  | some (.respond status headers body) => .ok ⟨status, headers, body, url⟩
  | some (.redirect _) => .error (.tooManyRedirects url limit)
  | some .fail => .error (.network url)
  | none => .error .io

variable {routes : Routes}

/-- A fetch that may follow another redirect goes on from its target. -/
theorem trail_redirect {url target : Text} (found : Table.get? url routes = some (.redirect target))
    (left : Nat) : routes.trail (left + 1) url = url :: routes.trail left target := by
  rw [trail, found]

/-- A fetch that may follow no redirect ends where it begins. -/
theorem trail_zero (url : Text) : routes.trail 0 url = [url] := by
  -- A redirect is not followed here, and anything else ends the fetch.
  unfold trail
  split
  · rfl
  · rfl

/-- A fetch ends at a URL that is no redirect. -/
theorem trail_of_not_redirect {url : Text}
    (ends : ∀ target, Table.get? url routes ≠ some (.redirect target)) (left : Nat) :
    routes.trail left url = [url] := by
  -- What is not a redirect is answered.
  unfold trail
  split
  · rename_i target found
    exact absurd found (ends target)
  · rfl

/-- A trail begins with the URL that is fetched. -/
theorem exists_trail_eq (left : Nat) (url : Text) :
    ∃ behind, routes.trail left url = url :: behind := by
  -- A redirect adds what is behind it, if it is followed.
  by_cases redirects : ∃ target, Table.get? url routes = some (.redirect target)
  · obtain ⟨target, found⟩ := redirects
    cases left with
    | zero => exact ⟨[], trail_zero url⟩
    | succ left => exact ⟨_, trail_redirect found left⟩
  · exact ⟨[], trail_of_not_redirect (not_exists.mp redirects) left⟩

/-- Each URL of a trail redirects to the next one. -/
theorem isChain_trail (left : Nat) (url : Text) :
    (routes.trail left url).IsChain fun here there =>
      Table.get? here routes = some (.redirect there) := by
  -- A trail goes on only behind a redirect, and then with its target.
  induction left generalizing url with
  | zero =>
    rw [trail_zero]
    exact .singleton url
  | succ left ih =>
    by_cases redirects : ∃ target, Table.get? url routes = some (.redirect target)
    · obtain ⟨target, found⟩ := redirects
      obtain ⟨behind, begins⟩ := @exists_trail_eq routes left target
      have rest := ih target
      rw [begins] at rest
      rw [trail_redirect found, begins]
      exact .cons_cons found rest
    · rw [trail_of_not_redirect (not_exists.mp redirects)]
      exact .singleton url

/-- A trail has at most one URL more than redirects may be followed. -/
theorem length_trail_le (left : Nat) (url : Text) : (routes.trail left url).length ≤ left + 1 := by
  -- By induction on the redirects that may be followed.
  induction left generalizing url with
  | zero => rw [trail_zero, List.length_singleton]
  | succ left ih =>
    by_cases redirects : ∃ target, Table.get? url routes = some (.redirect target)
    · obtain ⟨target, found⟩ := redirects
      rw [trail_redirect found, List.length_cons]
      exact Nat.succ_le_succ (ih target)
    · rw [trail_of_not_redirect (not_exists.mp redirects), List.length_singleton]
      omega

/-- A fetch that does not go on gives what the URL answers. -/
theorem follow_eq_of_ends {limit left : Nat} {url : Text}
    (ends : left = 0 ∨ ∀ target, Table.get? url routes ≠ some (.redirect target)) :
    routes.follow limit left url = routes.answerAt limit url := by
  unfold answerAt
  cases found : Table.get? url routes with
  | none => rw [follow, found]
  | some route =>
    cases route with
    | respond status headers body => rw [follow, found]
    | fail => rw [follow, found]
    | redirect target =>
      -- Only a fetch that may follow no redirect ends here.
      obtain rfl : left = 0 := ends.resolve_right fun none => none target found
      rw [follow, found]

/-- A fetch gives what the last URL of its trail answers. -/
theorem follow_eq_answerAt (limit left : Nat) (url : Text) :
    ∃ last, (routes.trail left url).getLast? = some last ∧
      routes.follow limit left url = routes.answerAt limit last := by
  -- A redirect that may be followed moves both the trail and the fetch to its target.
  induction left generalizing url with
  | zero => exact ⟨url, by rw [trail_zero, List.getLast?_singleton], follow_eq_of_ends (.inl rfl)⟩
  | succ left ih =>
    by_cases redirects : ∃ target, Table.get? url routes = some (.redirect target)
    · obtain ⟨target, found⟩ := redirects
      obtain ⟨last, ends, answers⟩ := ih target
      obtain ⟨behind, begins⟩ := @exists_trail_eq routes left target
      refine ⟨last, ?_, ?_⟩
      · rw [trail_redirect found, begins, List.getLast?_cons_cons, ← begins, ends]
      · rw [← answers, follow, found]
    · have ends := not_exists.mp redirects
      refine ⟨url, ?_, follow_eq_of_ends (.inr ends)⟩
      rw [trail_of_not_redirect ends, List.getLast?_singleton]

/-- A request follows no more redirects than its limit, or the standard one when it has none. -/
theorem redirects_le (request : Request) :
    routes.redirects request ≤ request.redirectLimit.getD defaultRedirectLimit :=
  Nat.sub_le_of_le_add (length_trail_le _ request.url)

end Routes

/-- The backend that fetches by routes and keeps the session of another one. -/
def Backend.routed {σ : Type} (session : Backend σ) (routes : Routes) : Backend σ :=
  { session with fetch := fun request state => (routes.fetch request, state) }

end RelyingParty
