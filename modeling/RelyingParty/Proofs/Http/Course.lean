import RelyingParty.Http.Client

/-! The course of a fetch whose requests are answered in turn: redirects lead it from URL to URL,
and the first reply that is no redirect ends it. -/

namespace RelyingParty

/-- The transport that gives replies in turn, and keeps the requests that it has seen. -/
def Transport.inTurn (replies : Nat → Reply) : Transport (List Outgoing) := fun outgoing seen =>
  (some (replies seen.length), seen ++ [outgoing])

namespace Reply

/-- Whether a reply redirects: its status says so, and it names a location. -/
def Redirects (reply : Reply) : Prop :=
  300 ≤ reply.status ∧ reply.status < 400 ∧
    ∃ header ∈ reply.headers, Text.asciiLower header.1 = "location"

/-- The URL that a redirect from another URL leads to. -/
def target? (url : Url) (reply : Reply) : Option Url := do
  let text ← reply.location?.bind visibleText?
  (url.resolve text).toOption

/-- A reply that redirects is one whose location is read. -/
theorem isSome_location?_iff (reply : Reply) : reply.location?.isSome ↔ reply.Redirects := by
  -- The first header of that name is found exactly when there is one.
  unfold location? Redirects
  by_cases status : 300 ≤ reply.status ∧ reply.status < 400
  · rw [if_pos status, Option.isSome_map, List.find?_isSome]
    simp only [decide_eq_true_eq]
    exact ⟨fun named => ⟨status.1, status.2, named⟩, fun redirects => redirects.2.2⟩
  · rw [if_neg status]
    exact ⟨nofun, fun redirects => absurd ⟨redirects.1, redirects.2.1⟩ status⟩

end Reply

namespace Request

/-- How messages and the response name the URL behind some redirects: the first one as the request
has it, and each later one as it is written. -/
def nameAt (request : Request) (route : Nat → Url) : Nat → Text
  | 0 => request.url
  | n + 1 => (route (n + 1)).render

/-- The body that is left behind some redirects; one that drops it drops it for good. -/
def bodyAt (request : Request) (replies : Nat → Reply) (n : Nat) : Option Text :=
  if (List.range n).any fun i => (replies i).dropsBody then none else request.body

/-- Where a request stands behind some redirects along a route. -/
def hopAt (request : Request) (replies : Nat → Reply) (route : Nat → Url) (n : Nat) : Client.Hop :=
  ⟨route n, request.nameAt route n, request.bodyAt replies n⟩

/-- The first requests that are sent for a request along a route. -/
def sentAlong (request : Request) (replies : Nat → Reply) (route : Nat → Url) (n : Nat) :
    List Outgoing :=
  (List.range n).map fun j => (request.hopAt replies route j).outgoing request.headers

/-- Whether redirects lead a request along a route: it begins at the URL of the request, and each
location is resolved against the URL before it, as long as there are redirects and a limit allows
one more. -/
structure IsRoute (request : Request) (limit : Nat) (replies : Nat → Reply) (route : Nat → Url) :
    Prop where
  start : Url.parse request.url = .ok (route 0)
  leads : ∀ n < limit, (∀ i ≤ n, (replies i).Redirects) →
    (replies n).target? (route n) = some (route (n + 1))

variable {request : Request} {replies : Nat → Reply} {route : Nat → Url} {limit : Nat}

/-- A redirect more leaves the body, or drops it. -/
theorem bodyAt_succ (request : Request) (replies : Nat → Reply) (n : Nat) :
    request.bodyAt replies (n + 1) =
      if (replies n).dropsBody then none else request.bodyAt replies n := by
  -- Among the redirects so far, the last one is decided on its own.
  unfold bodyAt
  rw [List.range_succ, List.any_append]
  cases dropped : (replies n).dropsBody <;> simp [dropped]

/-- One request more is sent at the next hop. -/
theorem sentAlong_succ (request : Request) (replies : Nat → Reply) (route : Nat → Url) (n : Nat) :
    request.sentAlong replies route (n + 1) =
      request.sentAlong replies route n ++
        [(request.hopAt replies route n).outgoing request.headers] := by
  -- The hops are counted up, and the new one is the last.
  rw [sentAlong, List.range_succ, List.map_append]
  rfl

/-- As many requests are sent as there are hops. -/
theorem length_sentAlong (request : Request) (replies : Nat → Reply) (route : Nat → Url) (n : Nat) :
    (request.sentAlong replies route n).length = n := by
  rw [sentAlong, List.length_map, List.length_range]

/-- A redirect leads from one hop of a route to the next. -/
theorem next?_hopAt {n : Nat} {location : Octets}
    (located : (replies n).location? = some location)
    (leads : (replies n).target? (route n) = some (route (n + 1))) :
    (request.hopAt replies route n).next? (replies n) location =
      some (request.hopAt replies route (n + 1)) := by
  -- The location is the one that is resolved, and the body follows the same rule.
  unfold Reply.target? at leads
  rw [located] at leads
  obtain ⟨text, visible, resolved⟩ := Option.bind_eq_some_iff.mp leads
  unfold Client.Hop.next? hopAt
  rw [Option.bind_some] at visible
  simp only [visible, resolved, bodyAt_succ, nameAt, Option.bind_eq_bind, Option.bind_some]
  rfl

end Request

namespace Client

variable {request : Request} {replies : Nat → Reply} {route : Nat → Url} {limit : Nat}

variable (request replies route) in
/-- A fetch that stands behind some redirects along a route, with so many redirects left. -/
def stand (client : Client (List Outgoing)) (limit left n : Nat) :
    Except TransportFault Response × List Outgoing :=
  client.follow request.headers limit left (request.hopAt replies route n)
    (request.sentAlong replies route n)

variable {client : Client (List Outgoing)} (answered : client.transport = .inTurn replies)

include answered

/-- The next request of a fetch is answered by the next reply. -/
theorem answer_eq (n : Nat) :
    client.transport ((request.hopAt replies route n).outgoing request.headers)
        (request.sentAlong replies route n) =
      (some (replies n), request.sentAlong replies route (n + 1)) := by
  rw [answered, Transport.inTurn, Request.length_sentAlong, ← Request.sentAlong_succ]

/-- A redirect moves a fetch one hop along the route, while one is left. -/
theorem stand_step {n left : Nat} (redirects : (replies n).Redirects)
    (leads : (replies n).target? (route n) = some (route (n + 1))) :
    client.stand request replies route limit (left + 1) n =
      client.stand request replies route limit left (n + 1) := by
  -- The reply names a location, and the route goes where it leads.
  obtain ⟨location, located⟩ :=
    Option.isSome_iff_exists.mp ((replies n).isSome_location?_iff.mpr redirects)
  rw [stand, follow, answer_eq answered n]
  simp only [located, Request.next?_hopAt located leads]
  rfl

/-- A reply that is no redirect ends a fetch with its response. -/
theorem stand_of_response {n : Nat} (ends : ¬(replies n).Redirects) (left : Nat) :
    client.stand request replies route limit left n =
      ((replies n).response client.bodyLimit (request.nameAt route n),
        request.sentAlong replies route (n + 1)) := by
  -- Without a location the reply is the response.
  have none : (replies n).location? = none :=
    Option.not_isSome_iff_eq_none.mp fun located =>
      ends ((replies n).isSome_location?_iff.mp located)
  rw [stand, follow, answer_eq answered n]
  simp only [none]
  rfl

/-- A redirect ends a fetch that may follow no more of them. -/
theorem stand_of_spent {n : Nat} (redirects : (replies n).Redirects) :
    client.stand request replies route limit 0 n =
      (.error (.tooManyRedirects (request.nameAt route n) limit),
        request.sentAlong replies route (n + 1)) := by
  -- No redirect is left for the location that the reply names.
  obtain ⟨location, located⟩ :=
    Option.isSome_iff_exists.mp ((replies n).isSome_location?_iff.mpr redirects)
  rw [stand, follow, answer_eq answered n]
  simp only [located]
  rfl

/-- Redirects move a fetch along the route, hop by hop. -/
theorem stand_of_redirects (routed : request.IsRoute limit replies route) {n : Nat}
    (within : n ≤ limit) (redirects : ∀ i < n, (replies i).Redirects) :
    client.stand request replies route limit limit 0 =
      client.stand request replies route limit (limit - n) n := by
  -- The induction is on the number of redirects; each one takes one from those that are left.
  induction n with
  | zero => rfl
  | succ n ih =>
    have before := ih (by omega) fun i earlier => redirects i (by omega)
    have leads := routed.leads n (by omega) fun i earlier => redirects i (by omega)
    have left : limit - n = (limit - (n + 1)) + 1 := by omega
    rw [before, left]
    exact stand_step answered (redirects n (by omega)) leads

omit answered

/-- A fetch begins at the first hop of the route. -/
theorem fetch_eq_stand (routed : request.IsRoute limit replies route)
    (limited : request.redirectLimit.getD client.redirectLimit = limit) :
    client.fetch request [] = client.stand request replies route limit limit 0 := by
  -- The URL of the request is where the route starts.
  unfold fetch
  rw [limited, routed.start]
  rfl

include answered

/-- Behind redirects that the limit allows, a fetch ends with the first reply that is none. -/
theorem fetch_of_response (routed : request.IsRoute limit replies route)
    (limited : request.redirectLimit.getD client.redirectLimit = limit) {k : Nat}
    (within : k ≤ limit) (redirects : ∀ i < k, (replies i).Redirects)
    (ends : ¬(replies k).Redirects) :
    client.fetch request [] =
      ((replies k).response client.bodyLimit (request.nameAt route k),
        request.sentAlong replies route (k + 1)) := by
  -- The redirects are followed first, and then the reply ends the fetch.
  rw [fetch_eq_stand routed limited, stand_of_redirects answered routed within redirects]
  exact stand_of_response answered ends _

/-- One redirect more than the limit allows ends a fetch with a fault. -/
theorem fetch_of_spent (routed : request.IsRoute limit replies route)
    (limited : request.redirectLimit.getD client.redirectLimit = limit)
    (redirects : ∀ i ≤ limit, (replies i).Redirects) :
    client.fetch request [] =
      (.error (.tooManyRedirects (request.nameAt route limit) limit),
        request.sentAlong replies route (limit + 1)) := by
  -- All redirects of the limit are followed, and the next reply asks for one more.
  have before : ∀ i < limit, (replies i).Redirects := fun i earlier => redirects i (by omega)
  rw [fetch_eq_stand routed limited, stand_of_redirects answered routed (Nat.le_refl limit) before,
    Nat.sub_self]
  exact stand_of_spent answered (redirects limit (Nat.le_refl limit))

end Client

end RelyingParty
