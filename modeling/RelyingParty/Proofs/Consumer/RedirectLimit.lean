import RelyingParty.Proofs.Consumer.Confined
import RelyingParty.Proofs.Discovery.Fetches
import RelyingParty.Proofs.Http.Routes

/-! Which limit the fetches of a consumer keep, whatever limit it is configured with. -/

namespace RelyingParty.Consumer

/-- Whether no fetch of a call follows more redirects than a limit, by any routes and with any
session. -/
def FollowsAtMost (consumer : Consumer) (limit : Nat) : Prop :=
  ∀ (σ : Type) (session : Backend σ) (state : σ) (routes : Routes) (call : Call),
    ∀ request ∈ ((consumer.perform call).run (session.routed routes) state).requests,
      routes.redirects request ≤ limit

/-- A URL that redirects to itself. -/
def loop : Routes := [("http://a/", .redirect "http://a/")]

/-- A fetch of that URL follows all the redirects that it may. -/
theorem length_trail_loop (left : Nat) : (loop.trail left "http://a/").length = left + 1 := by
  -- Each step of the loop is a redirect, until none is left.
  induction left with
  | zero => rw [Routes.trail_zero, List.length_singleton]
  | succ left ih => rw [Routes.trail_redirect rfl, List.length_cons, ih]

/-- No request of a consumer carries a limit. -/
theorem redirectLimit_eq_none {σ : Type} (consumer : Consumer) (backend : Backend σ) (state : σ)
    (call : Call) :
    ∀ request ∈ ((consumer.perform call).run backend state).requests,
      request.redirectLimit = none :=
  ((consumer.unlimited_perform call).run backend state).1

/-- A fetch of a consumer follows the standard number of redirects at most. -/
theorem followsAtMost_default (consumer : Consumer) :
    consumer.FollowsAtMost defaultRedirectLimit := by
  intro σ session state routes call request asked
  -- Without a limit of its own the request is answered by the standard one.
  have unlimited := consumer.redirectLimit_eq_none (session.routed routes) state call request asked
  have kept := routes.redirects_le request
  rw [unlimited] at kept
  exact kept

/-- The first fetch of a discovery by the loop follows the standard number of redirects. -/
theorem exists_loop_request (consumer : Consumer) :
    ∃ request ∈ ((consumer.perform (.discover "http://a/")).run (Backend.script.routed loop)
        []).requests,
      loop.redirects request = defaultRedirectLimit := by
  -- A URL is discovered without the resolver, which is all that the configuration could change.
  have called : consumer.perform (.discover "http://a/") = (Discovery.ofUrl "http://a/").dismiss :=
    rfl
  have normal : (Discovery.withScheme "http://a/").bind normalUrl = .ok "http://a/" := by
    decide +kernel
  obtain ⟨first, second, last, course, _⟩ :=
    Discovery.ofUrl_course (Backend.script.routed loop) [] normal
  refine ⟨Yadis.firstRequest "http://a/", ?_, ?_⟩
  · rw [called, Flow.run_dismiss]
    dsimp only
    rw [Flow.run_requests_eq, course.whole]
    exact .head _
  · exact congrArg (· - 1) (length_trail_loop defaultRedirectLimit)

/-- The fetches of a consumer keep a limit exactly when the standard one is no larger. -/
theorem followsAtMost_iff (consumer : Consumer) (limit : Nat) :
    consumer.FollowsAtMost limit ↔ defaultRedirectLimit ≤ limit := by
  -- A loop of redirects uses up the standard limit, so no lower one is kept.
  constructor
  · intro kept
    obtain ⟨request, asked, long⟩ := consumer.exists_loop_request
    rw [← long]
    exact kept _ Backend.script [] loop (.discover "http://a/") request asked
  · intro enough σ session state routes call request asked
    exact (consumer.followsAtMost_default σ session state routes call request asked).trans enough

/-- No request of a consumer carries the configured limit, so that the standard one holds of every
fetch, and no lower one: the configured limit is kept exactly when the standard one is no larger. -/
theorem keeps_configured_limit_iff (consumer : Consumer) :
    (∀ (σ : Type) (backend : Backend σ) (state : σ) (call : Call),
      ∀ request ∈ ((consumer.perform call).run backend state).requests,
        request.redirectLimit = none) ∧
    consumer.FollowsAtMost defaultRedirectLimit ∧
    (consumer.FollowsAtMost consumer.config.redirectLimit ↔
      defaultRedirectLimit ≤ consumer.config.redirectLimit) :=
  ⟨fun _ => consumer.redirectLimit_eq_none, consumer.followsAtMost_default,
    consumer.followsAtMost_iff consumer.config.redirectLimit⟩

/-- The standard settings, but for a limit of one redirect. -/
def strict : Consumer := ⟨{ Config.standard with redirectLimit := 1 }⟩

/-- A page behind two redirects. -/
def twiceRedirected : Routes :=
  [("http://a/", .redirect "http://b/"), ("http://b/", .redirect "http://c/"),
    ("http://c/", .respond 200 []
      "<html><head><link rel=\"openid.server\" href=\"http://op/\"></head></html>")]

/-- A consumer whose limit is one redirect does not keep it: it finds a page behind two. -/
theorem strict_follows_two :
    ¬strict.FollowsAtMost strict.config.redirectLimit ∧
      twiceRedirected.redirects (Yadis.firstRequest "http://a/") = 2 ∧
      ((strict.discover "http://a/").run (Backend.script.routed twiceRedirected) []).result =
        .ok ("http://c/",
          [⟨some "http://c/", "http://op/", [OpenidType.signon11], none, false, none⟩]) := by
  -- The standard limit is five, and that of this consumer is one.
  refine ⟨fun kept => ?_, by decide +kernel, by decide +kernel⟩
  exact absurd (strict.keeps_configured_limit_iff.2.2.mp kept) (by decide)

end RelyingParty.Consumer
