import Mathlib.Data.List.Basic
import RelyingParty.Proofs.Http.Course

/-! A body is accepted by its size, whatever the pieces in which it arrives. -/

namespace RelyingParty

namespace Reply

/-- The octets of the body, all pieces together. -/
def octets (reply : Reply) : Octets := reply.chunks.flatten

/-- Whether a body arrives as it is announced: the connection does not cut it off, and its length is
not declared or is the declared one. -/
def Arrives (reply : Reply) : Prop :=
  reply.isCutOff = false ∧
    (reply.declaredLength = none ∨ reply.declaredLength = some reply.octets.length)

/-- The pieces of a body behind those that are held, and everything that the buffer holds on the
way. -/
def gatherWatched (limit : Nat) (held : Octets) : (chunks : List Octets) →
    Option Octets × List Octets
  | [] => (some held, [held])
  | chunk :: rest =>
    if limit < held.length + chunk.length then (none, [held])
    else
      let watched := gatherWatched limit (held ++ chunk) rest
      (watched.1, held :: watched.2)

variable {limit : Nat}

/-- Watching the buffer does not change what is gathered. -/
theorem gatherWatched_eq (held : Octets) (chunks : List Octets) :
    (gatherWatched limit held chunks).1 = gather? limit held chunks := by
  -- Both follow the pieces in the same way.
  induction chunks generalizing held with
  | nil => rfl
  | cons chunk rest ih =>
    rw [gatherWatched, gather?]
    by_cases full : limit < held.length + chunk.length
    · rw [if_pos full, if_pos full]
    · rw [if_neg full, if_neg full]
      exact ih _

/-- A buffer within the limit stays within it, and holds the start of the body. -/
theorem kept_of_gatherWatched {held : Octets} (fits : held.length ≤ limit) (chunks : List Octets) :
    ∀ buffer ∈ (gatherWatched limit held chunks).2,
      buffer.length ≤ limit ∧ buffer <+: held ++ chunks.flatten := by
  -- A piece is put into the buffer only after its size has been added up.
  induction chunks generalizing held with
  | nil =>
    intro buffer watched
    obtain rfl := List.mem_singleton.mp watched
    exact ⟨fits, List.prefix_append _ _⟩
  | cons chunk rest ih =>
    intro buffer watched
    rw [gatherWatched] at watched
    by_cases full : limit < held.length + chunk.length
    · -- A piece that does not fit is not kept.
      rw [if_pos full] at watched
      obtain rfl := List.mem_singleton.mp watched
      exact ⟨fits, List.prefix_append _ _⟩
    · rw [if_neg full] at watched
      rcases List.mem_cons.mp watched with rfl | later
      · exact ⟨fits, List.prefix_append _ _⟩
      · -- A piece that fits is kept, and the others are put behind it.
        have room : (held ++ chunk).length ≤ limit := by
          rw [List.length_append]
          omega
        have kept := ih room buffer later
        rwa [List.append_assoc, ← List.flatten_cons] at kept

/-- Pieces are gathered exactly when all of them together are within the limit. -/
theorem gather?_eq {held : Octets} (fits : held.length ≤ limit) (chunks : List Octets) :
    gather? limit held chunks =
      if held.length + chunks.flatten.length ≤ limit then some (held ++ chunks.flatten)
      else none := by
  -- A piece too many is refused as soon as it comes, and what comes behind it only adds to it.
  induction chunks generalizing held with
  | nil => simp [gather?, fits]
  | cons chunk rest ih =>
    rw [gather?, List.flatten_cons, List.length_append]
    by_cases full : limit < held.length + chunk.length
    · have beyond : ¬held.length + (chunk.length + rest.flatten.length) ≤ limit := by omega
      rw [if_pos full, if_neg beyond]
    · have room : (held ++ chunk).length ≤ limit := by
        rw [List.length_append]
        omega
      rw [if_neg full, ih room, List.length_append, Nat.add_assoc, List.append_assoc]

/-- A body that arrives as announced is read when it is within the limit, and is too large
otherwise: the declared length is refused exactly when the pieces are. -/
theorem readBody_eq {reply : Reply} (arrives : reply.Arrives) (url : Text) :
    reply.readBody limit url =
      if reply.octets.length ≤ limit then .ok (Text.ofUtf8 reply.octets)
      else .error (.responseTooLarge url limit) := by
  obtain ⟨whole, declared⟩ := arrives
  have gathered : gather? limit [] reply.chunks =
      if reply.octets.length ≤ limit then some reply.octets else none := by
    have empty : ([] : Octets).length ≤ limit := Nat.zero_le limit
    rw [gather?_eq empty, List.length_nil, Nat.zero_add, List.nil_append, octets]
  unfold readBody
  rw [gathered, whole]
  by_cases fits : reply.octets.length ≤ limit
  · -- A declared length is that of the body, so it is within the limit too.
    have honest : ¬reply.declaredLength.any (limit < ·) = true := by
      rcases declared with declared | declared <;> rw [declared] <;> simp [fits]
    rw [if_neg honest, if_pos fits, if_pos fits]
    rfl
  · -- Whether the length is declared or the pieces are counted, the fault is the same.
    rw [if_neg fits, if_neg fits]
    exact ite_self _

/-- The response of a reply has its status and its headers, and the text of its body. -/
theorem response_eq {reply : Reply} (arrives : reply.Arrives) (url : Text) :
    reply.response limit url =
      if reply.octets.length ≤ limit then
        .ok ⟨reply.status, reply.headerTable, Text.ofUtf8 reply.octets, url⟩
      else .error (.responseTooLarge url limit) := by
  -- The body is read as a whole or refused, and the rest of the reply is kept.
  unfold response
  rw [readBody_eq arrives]
  by_cases fits : reply.octets.length ≤ limit
  · rw [if_pos fits, if_pos fits]
    rfl
  · rw [if_neg fits, if_neg fits]
    rfl

end Reply

namespace Client

/-- However the body of a reply arrives, in whatever pieces and with its length declared or not, a
fetch that ends with the reply returns the text of all its octets when they are within the limit for
bodies, and is refused with that limit otherwise; and no more octets than the limit are ever held,
all of them from the start of the body. -/
theorem fetch_body_by_size (request : Request) (replies : Nat → Reply) (route : Nat → Url)
    (redirectLimit bodyLimit k : Nat)
    (routed : request.IsRoute (request.redirectLimit.getD redirectLimit) replies route)
    (within : k ≤ request.redirectLimit.getD redirectLimit)
    (redirects : ∀ i < k, (replies i).Redirects) (ends : ¬(replies k).Redirects)
    (arrives : (replies k).Arrives) :
    ((Client.mk (.inTurn replies) redirectLimit bodyLimit).fetch request []).1 =
        (if (replies k).octets.length ≤ bodyLimit then
          .ok ⟨(replies k).status, (replies k).headerTable, Text.ofUtf8 (replies k).octets,
            request.nameAt route k⟩
        else .error (.responseTooLarge (request.nameAt route k) bodyLimit)) ∧
      (Reply.gatherWatched bodyLimit [] (replies k).chunks).1 =
        Reply.gather? bodyLimit [] (replies k).chunks ∧
      ∀ buffer ∈ (Reply.gatherWatched bodyLimit [] (replies k).chunks).2,
        buffer.length ≤ bodyLimit ∧ buffer <+: (replies k).octets := by
  -- The course of a fetch does not look at bodies, so the last reply is read as it arrives.
  have answered :
      (Client.mk (.inTurn replies) redirectLimit bodyLimit).transport = .inTurn replies := rfl
  have course := fetch_of_response answered routed rfl within redirects ends
  refine ⟨?_, Reply.gatherWatched_eq [] _, ?_⟩
  · rw [course]
    exact Reply.response_eq arrives _
  · exact Reply.kept_of_gatherWatched (Nat.zero_le bodyLimit) _

/-- A redirect, and a page of one character that arrives in three pieces, one of them empty. -/
def pieces : Nat → Reply
  | 0 => ⟨302, [("location", Text.utf8 "b")], none, [], false⟩
  | _ => ⟨200, [], none, [[0xC3], [], [0xA9]], false⟩

/-- The URLs of the redirect and of the page. -/
def piecesRoute (n : Nat) : Url :=
  ⟨"http", [], none, some (.domain "a"), none, .rooted [if n = 0 then [] else "b"], none, none⟩

/-- A page whose character is cut by its pieces is read when two octets are accepted, and is too
large when only one is. -/
theorem fetch_body_by_size_pieces :
    ((Client.mk (.inTurn pieces) 1 2).fetch (.get "http://a/") []).1 =
        .ok ⟨200, [], "é", "http://a/b"⟩ ∧
      ((Client.mk (.inTurn pieces) 1 1).fetch (.get "http://a/") []).1 =
        .error (.responseTooLarge "http://a/b" 1) := by
  -- One redirect leads to the reply with the pieces.
  have routed : (Request.get "http://a/").IsRoute 1 pieces piecesRoute := by
    refine ⟨by decide +kernel, fun n below _ => ?_⟩
    obtain rfl : n = 0 := by omega
    decide +kernel
  have redirects : ∀ i < 1, (pieces i).Redirects := by
    intro i below
    obtain rfl : i = 0 := by omega
    exact (Reply.isSome_location?_iff _).mp (by decide +kernel)
  have ends : ¬(pieces 1).Redirects := by
    rw [← Reply.isSome_location?_iff]
    decide +kernel
  have arrives : (pieces 1).Arrives := ⟨rfl, .inl rfl⟩
  -- Only the limit for bodies differs between the two fetches.
  constructor
  · rw [(fetch_body_by_size _ pieces piecesRoute 1 2 1 routed (Nat.le_refl 1) redirects ends
      arrives).1]
    decide +kernel
  · rw [(fetch_body_by_size _ pieces piecesRoute 1 1 1 routed (Nat.le_refl 1) redirects ends
      arrives).1]
    decide +kernel

end Client

end RelyingParty
