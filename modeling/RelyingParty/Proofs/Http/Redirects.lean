import Mathlib.Data.Nat.Find
import RelyingParty.Proofs.Http.Body
import RelyingParty.Proofs.Http.HopCount

/-! Redirects are followed exactly up to the limit, and a body that a redirect drops stays
dropped. -/

namespace RelyingParty

/-- Up to a limit something holds always, or there is a first time when it does not. -/
theorem forall_or_first_not (p : Nat → Prop) (limit : Nat) :
    (∀ i ≤ limit, p i) ∨ ∃ k ≤ limit, (∀ i < k, p i) ∧ ¬p k := by
  -- If it fails at all within the limit, there is a least number where it does.
  classical
  by_cases all : ∀ i ≤ limit, p i
  · exact .inl all
  · have fails : ∃ i, i ≤ limit ∧ ¬p i := by simpa using all
    obtain ⟨within, first⟩ := Nat.find_spec fails
    refine .inr ⟨Nat.find fails, within, fun i earlier => ?_, first⟩
    by_contra other
    exact Nat.find_min fails earlier ⟨by omega, other⟩

/-- A request is a POST exactly when it has a body. -/
theorem methodOf_eq_post_iff {body : Option Text} : methodOf body = "POST" ↔ body.isSome := by
  cases body <;> simp [methodOf]

/-- A body is left exactly when there was one and no redirect has dropped it. -/
theorem Request.isSome_bodyAt_iff (request : Request) (replies : Nat → Reply) (n : Nat) :
    (request.bodyAt replies n).isSome ↔
      request.body.isSome ∧ ∀ i < n, (replies i).status ∉ [301, 302, 303] := by
  -- A redirect drops the body by its status.
  have kept : ((List.range n).any fun i => (replies i).dropsBody) = false ↔
      ∀ i < n, (replies i).status ∉ [301, 302, 303] := by
    simp [Reply.dropsBody, and_assoc]
  unfold bodyAt
  rw [← kept]
  cases (List.range n).any fun i => (replies i).dropsBody <;> simp

/-- A body that is left is the one of the request. -/
theorem Request.bodyAt_of_isSome {request : Request} {replies : Nat → Reply} {n : Nat}
    (left : (request.bodyAt replies n).isSome) : request.bodyAt replies n = request.body := by
  -- The other case has no body.
  unfold bodyAt at left ⊢
  split at left
  · cases left
  · rename_i kept
    exact if_neg kept

namespace Client

variable {request : Request} {replies : Nat → Reply} {route : Nat → Url} {limit : Nat}
variable {client : Client (List Outgoing)}

/-- What is sent by a fetch along a route are the requests of its first hops. -/
theorem exists_sentAlong (answered : client.transport = .inTurn replies)
    (routed : request.IsRoute limit replies route)
    (limited : request.redirectLimit.getD client.redirectLimit = limit) :
    ∃ n, (client.fetch request []).2 = request.sentAlong replies route n := by
  -- The fetch ends at the first reply that is no redirect, or at the limit when there is none.
  rcases forall_or_first_not (fun i => (replies i).Redirects) limit with all | ⟨k, within, first⟩
  · exact ⟨limit + 1, by rw [fetch_of_spent answered routed limited all]⟩
  · exact ⟨k + 1, by rw [fetch_of_response answered routed limited within first.1 first.2]⟩

/-- A request that is sent behind some redirects is one to the URL where they lead. It has the body
of the first request, and is a POST, exactly when there was one and no redirect has dropped it; any
other is a GET without a body. -/
theorem sent_spec {n j : Nat} {outgoing : Outgoing}
    (sent : (request.sentAlong replies route n)[j]? = some outgoing) :
    outgoing.url = route j ∧
      outgoing.headers = Outgoing.headersOf request.headers outgoing.body ∧
      (outgoing.method = "POST" ∧ outgoing.body = request.body ↔
        request.body.isSome ∧ ∀ i < j, (replies i).status ∉ [301, 302, 303]) ∧
      (¬(request.body.isSome ∧ ∀ i < j, (replies i).status ∉ [301, 302, 303]) →
        outgoing.method = "GET" ∧ outgoing.body = none) := by
  -- The request in that place is the one of the hop in that place.
  rw [Request.sentAlong, List.getElem?_map, Option.map_eq_some_iff] at sent
  obtain ⟨place, counted, rfl⟩ := sent
  obtain ⟨inside, standing⟩ := List.getElem?_eq_some_iff.mp counted
  obtain rfl : j = place := by rw [← standing, List.getElem_range]
  refine ⟨rfl, rfl, ?_, ?_⟩
  · have post : methodOf (request.bodyAt replies j) = "POST" ↔ _ := methodOf_eq_post_iff
    show methodOf (request.bodyAt replies j) = "POST" ∧ request.bodyAt replies j = request.body ↔ _
    rw [← request.isSome_bodyAt_iff replies j, post]
    exact ⟨And.left, fun left => ⟨left, Request.bodyAt_of_isSome left⟩⟩
  · intro lost
    rw [← request.isSome_bodyAt_iff replies j, Option.not_isSome_iff_eq_none] at lost
    show methodOf (request.bodyAt replies j) = "GET" ∧ request.bodyAt replies j = none
    rw [lost]
    exact ⟨rfl, rfl⟩

/-- Redirects are followed exactly up to the limit, whatever is replied. Behind no more of them than
the limit, one request is sent for each and one for the reply that is no redirect; that reply is the
response, and it names the URL of the request or, behind redirects, where they have led. With one
redirect more than the limit, one request more than the limit is sent, and the fault names the URL
of the last one. Each request is a POST with the body of the first one as long as no redirect has
dropped it. The redirects are counted in eight bits, and the count always fits. -/
theorem fetch_follows_redirects (request : Request) (replies : Nat → Reply)
    (redirectLimit bodyLimit : Nat) (limit : UInt8)
    (limited : request.redirectLimit.getD redirectLimit = limit.toNat)
    (bodies : ∀ n, ¬(replies n).Redirects →
      (replies n).Arrives ∧ (replies n).octets.length ≤ bodyLimit) :
    let client : Client (List Outgoing) := ⟨.inTurn replies, redirectLimit, bodyLimit⟩
    let fetched := client.fetch request []
    (∀ fault, Url.parse request.url = .error fault →
        fetched = (.error (.invalidUrl request.url), [])) ∧
      ∀ route, request.IsRoute limit.toNat replies route →
        (∀ k ≤ limit.toNat, (∀ i < k, (replies i).Redirects) → ¬(replies k).Redirects →
          fetched.1 = .ok ⟨(replies k).status, (replies k).headerTable,
            Text.ofUtf8 (replies k).octets, request.nameAt route k⟩ ∧
          fetched.2.length = k + 1) ∧
        ((∀ i ≤ limit.toNat, (replies i).Redirects) →
          fetched.1 =
            .error (.tooManyRedirects (request.nameAt route limit.toNat) limit.toNat) ∧
          fetched.2.length = limit.toNat + 1) ∧
        (∀ (j : Nat) (outgoing : Outgoing), fetched.2[j]? = some outgoing →
          outgoing.url = route j ∧
          outgoing.headers = Outgoing.headersOf request.headers outgoing.body ∧
          (outgoing.method = "POST" ∧ outgoing.body = request.body ↔
            request.body.isSome ∧ ∀ i < j, (replies i).status ∉ [301, 302, 303]) ∧
          (¬(request.body.isSome ∧ ∀ i < j, (replies i).status ∉ [301, 302, 303]) →
            outgoing.method = "GET" ∧ outgoing.body = none)) ∧
        client.followCounted? request.headers limit 0 ⟨route 0, request.url, request.body⟩ [] =
          some fetched := by
  intro client fetched
  have answered : client.transport = .inTurn replies := rfl
  refine ⟨fun fault malformed => ?_, fun route routed => ⟨?_, ?_, ?_, ?_⟩⟩
  · -- A URL that is none is not asked for.
    show client.fetch request [] = _
    unfold fetch
    rw [malformed]
  · intro k within redirects ends
    -- The reply that is no redirect arrives, and its body is not too large.
    have course := fetch_of_response answered routed limited within redirects ends
    obtain ⟨arrives, fits⟩ := bodies k ends
    have response : (replies k).response bodyLimit (request.nameAt route k) = _ :=
      Reply.response_eq arrives _
    rw [if_pos fits] at response
    show (client.fetch request []).1 = _ ∧ (client.fetch request []).2.length = _
    rw [course]
    exact ⟨response, request.length_sentAlong replies route (k + 1)⟩
  · intro redirects
    -- When every reply is a redirect, the limit is spent.
    have course := fetch_of_spent answered routed limited redirects
    show (client.fetch request []).1 = _ ∧ (client.fetch request []).2.length = _
    rw [course]
    exact ⟨rfl, request.length_sentAlong replies route (limit.toNat + 1)⟩
  · intro j outgoing sent
    -- In both courses the requests are those along the route.
    obtain ⟨n, along⟩ := exists_sentAlong answered routed limited
    exact sent_spec (along ▸ sent)
  · -- Counted from zero, all redirects of the limit are left.
    have none : (0 : UInt8).toNat ≤ limit.toNat := Nat.zero_le _
    have counted := client.followCounted?_eq request.headers none
      ⟨route 0, request.url, request.body⟩ []
    rw [counted]
    show some _ = some (client.fetch request [])
    unfold fetch
    rw [limited, routed.start]
    rfl

/-- Three redirects, of which the second one drops the body, and a page behind them. -/
def detour : Nat → Reply
  | 0 => ⟨307, [("location", Text.utf8 "/b")], none, [], false⟩
  | 1 => ⟨302, [("Location", Text.utf8 "c?d")], none, [], false⟩
  | 2 => ⟨308, [("location", Text.utf8 "http://e/")], none, [], false⟩
  | _ => ⟨200, [], some 2, [[0xC3], [0xA9]], false⟩

/-- The URLs that they lead to. -/
def detourRoute (n : Nat) : Url where
  scheme := "http"
  username := []
  password := none
  host := some (.domain (if n < 3 then "a" else "e"))
  port := none
  path := .rooted [if n = 1 then "b" else if n = 2 then "c" else []]
  query := if n = 2 then some "d" else none
  fragment := none

/-- A form that allows three redirects. -/
def form : Request := ⟨"http://a", some "f=g", [], some 3⟩

/-- Its first three replies redirect, and no later one. -/
theorem redirects_detour_iff {n : Nat} : (detour n).Redirects ↔ n < 3 := by
  -- The first three replies are tried, and all later ones are the page.
  rw [← Reply.isSome_location?_iff]
  match n with
  | 0 | 1 | 2 => decide +kernel
  | n + 3 => exact ⟨nofun, fun below => absurd below (by omega)⟩

/-- The form is led along that route. -/
theorem isRoute_detour : form.IsRoute 3 detour detourRoute where
  -- The route is tried hop by hop.
  start := by decide +kernel
  leads n below _ := by
    have each : ∀ n < 3, (detour n).target? (detourRoute n) = some (detourRoute (n + 1)) := by
      decide +kernel
    exact each n below

/-- A form is sent twice as a POST and then asked for, up to the three redirects that it allows, and
the page is the response; its two octets are one character. -/
theorem fetch_follows_redirects_detour :
    let fetched := (Client.mk (.inTurn detour) 5 2).fetch form []
    fetched.1 = .ok ⟨200, [], "é", "http://e/"⟩ ∧ fetched.2.length = 4 ∧
      ∀ (j : Nat) (outgoing : Outgoing), fetched.2[j]? = some outgoing →
        outgoing.url = detourRoute j ∧ (outgoing.method = "POST" ↔ j < 2) := by
  -- Only the replies behind the detour are no redirects, and their body is small enough.
  have bodies : ∀ n, ¬(detour n).Redirects →
      (detour n).Arrives ∧ (detour n).octets.length ≤ 2 := by
    intro n none
    obtain ⟨m, rfl⟩ : ∃ m, n = m + 3 :=
      Nat.exists_eq_add_of_le' (Nat.le_of_not_lt fun below => none (redirects_detour_iff.mpr below))
    exact ⟨⟨rfl, .inr rfl⟩, Nat.le_refl 2⟩
  obtain ⟨_, along⟩ := fetch_follows_redirects form detour 5 2 3 rfl bodies
  obtain ⟨answered, _, sent, _⟩ := along detourRoute isRoute_detour
  obtain ⟨response, count⟩ := answered 3 (Nat.le_refl 3)
    (fun i below => redirects_detour_iff.mpr below)
    fun again => absurd (redirects_detour_iff.mp again) (Nat.lt_irrefl 3)
  refine ⟨?_, count, fun j outgoing place => ?_⟩
  · rw [response]
    decide +kernel
  · obtain ⟨url, _, post, get⟩ := sent j outgoing place
    refine ⟨url, ?_⟩
    -- The second reply is the one that drops the body.
    rcases Nat.lt_or_ge j 2 with early | late
    · have kept : ∀ i < j, (detour i).status ∉ [301, 302, 303] := by
        intro i before
        obtain rfl : i = 0 := by omega
        decide
      exact ⟨fun _ => early, fun _ => (post.mpr ⟨rfl, kept⟩).1⟩
    · have dropped := (get fun kept => kept.2 1 (by omega) (by decide)).1
      rw [dropped]
      exact ⟨fun other => absurd other (by decide), fun early => absurd early (by omega)⟩

end Client

end RelyingParty
