import RelyingParty.Http.Client
import RelyingParty.Http.Routes

/-! Redirects are counted in eight bits: a count that stops at a limit of eight bits always fits. -/

namespace RelyingParty

/-- A count below the greatest one of eight bits grows by one. -/
theorem toNat_add_one {hops : UInt8} (room : hops ≠ 255) : (hops + 1).toNat = hops.toNat + 1 := by
  -- The sum is taken modulo 256, which only the sum of 255 and one reaches.
  have small : hops.toNat < 256 := hops.toNat_lt
  have apart : hops.toNat ≠ 255 := fun same => room (UInt8.toNat_inj.mp same)
  rw [UInt8.toNat_add]
  exact Nat.mod_eq_of_lt (by simp; omega)

/-- One hop more than a count, unless eight bits cannot hold it. -/
def oneMore? (hops : UInt8) : Option { more : UInt8 // more.toNat = hops.toNat + 1 } :=
  if full : hops = 255 then none else some ⟨hops + 1, toNat_add_one full⟩

/-- A count below another one has room for one hop more. -/
theorem exists_oneMore {hops limit : UInt8} (below : hops.toNat < limit.toNat) :
    ∃ more, oneMore? hops = some more := by
  -- Nothing that eight bits hold is beyond 255, so the smaller of two counts is not 255.
  have small : limit.toNat < 256 := limit.toNat_lt
  have room : hops ≠ 255 := by
    rintro rfl
    exact absurd below (by simp; omega)
  exact ⟨_, dif_neg room⟩

namespace Client

variable {σ : Type}

/-- Sends a request and follows redirects while a count of hops in eight bits is below the limit;
nothing comes back when the count would not fit. -/
def followCounted? (client : Client σ) (headers : Table Text) (limit hops : UInt8) (hop : Hop)
    (state : σ) : Option (Except TransportFault Response × σ) :=
  match client.transport (hop.outgoing headers) state with
  | (none, state) => some (.error (.network hop.name), state)
  | (some reply, state) =>
    match reply.location? with
    | none => some (reply.response client.bodyLimit hop.name, state)
    | some location =>
      if limit ≤ hops then some (.error (.tooManyRedirects hop.name limit.toNat), state)
      else
        match hop.next? reply location with
        | none => some (.error (.invalidUrl hop.name), state)
        | some next =>
          -- The limit is checked before the count grows, so it cannot exceed its eight bits.
          match oneMore? hops with
          | none => none
          | some more => followCounted? client headers limit more.val next state
termination_by limit.toNat - hops.toNat
decreasing_by
  have below : hops.toNat < limit.toNat := Nat.lt_of_not_le ‹¬limit ≤ hops›
  have := more.property
  omega

/-- The count of hops always fits: counting up to the limit is the same as counting down the
redirects that are left. -/
theorem followCounted?_eq (client : Client σ) (headers : Table Text) {limit hops : UInt8}
    (within : hops.toNat ≤ limit.toNat) (hop : Hop) (state : σ) :
    client.followCounted? headers limit hops hop state =
      some (client.follow headers limit.toNat (limit.toNat - hops.toNat) hop state) := by
  -- The induction is on the number of redirects that are left.
  generalize rest : limit.toNat - hops.toNat = left
  induction left generalizing hops hop state with
  | zero =>
    -- At the limit one more redirect is the fault of both.
    have reached : limit ≤ hops := by
      show limit.toNat ≤ hops.toNat
      omega
    rw [followCounted?, follow]
    cases client.transport (hop.outgoing headers) state with
    | mk answer after =>
      cases answer with
      | none => rfl
      | some reply =>
        cases located : reply.location? with
        | none => simp [located]
        | some location => simp [located, reached]
  | succ left ih =>
    -- Below the limit the count goes up by one, which is at most the limit and so fits.
    have below : hops.toNat < limit.toNat := by omega
    have going : ¬limit ≤ hops := Nat.not_le_of_lt below
    obtain ⟨more, counted⟩ := exists_oneMore below
    have greater := more.property
    rw [followCounted?, follow]
    cases client.transport (hop.outgoing headers) state with
    | mk answer after =>
      cases answer with
      | none => rfl
      | some reply =>
        cases located : reply.location? with
        | none => simp [located]
        | some location =>
          cases led : hop.next? reply location with
          | none => simp [located, going, led]
          | some next =>
            simp only [located, if_neg going, led, counted]
            exact ih (by omega) next after (by omega)

end Client

namespace Routes

/-- Follows routes from a URL while a count of hops in eight bits is below the limit; nothing comes
back when the count would not fit. -/
def followCounted? (routes : Routes) (limit hops : UInt8) (url : Text) :
    Option (Except TransportFault Response) :=
  match Table.get? url routes with
  | some (.respond status headers body) => some (.ok ⟨status, headers, body, url⟩)
  | some (.redirect target) =>
    if limit ≤ hops then some (.error (.tooManyRedirects url limit.toNat))
    else
      -- Here too the limit is checked first.
      match oneMore? hops with
      | none => none
      | some more => followCounted? routes limit more.val target
  | some .fail => some (.error (.network url))
  | none => some (.error .io)
termination_by limit.toNat - hops.toNat
decreasing_by
  have below : hops.toNat < limit.toNat := Nat.lt_of_not_le ‹¬limit ≤ hops›
  have := more.property
  omega

/-- The count of hops always fits: counting up to the limit is the same as counting down the
redirects that are left. -/
theorem followCounted?_eq (routes : Routes) {limit hops : UInt8}
    (within : hops.toNat ≤ limit.toNat) (url : Text) :
    routes.followCounted? limit hops url =
      some (routes.follow limit.toNat (limit.toNat - hops.toNat) url) := by
  -- The induction is on the number of redirects that are left.
  generalize rest : limit.toNat - hops.toNat = left
  induction left generalizing hops url with
  | zero =>
    have reached : limit ≤ hops := Nat.le_of_sub_eq_zero rest
    rw [followCounted?, follow]
    cases found : Table.get? url routes with
    | none => rfl
    | some route => cases route <;> simp [reached]
  -- One redirect more is counted, and one less is left.
  | succ left ih =>
    have below : hops.toNat < limit.toNat := by omega
    have going : ¬limit ≤ hops := Nat.not_le_of_lt below
    obtain ⟨more, counted⟩ := exists_oneMore below
    have greater := more.property
    rw [followCounted?, follow]
    cases found : Table.get? url routes with
    | none => rfl
    | some route =>
      cases route with
      | respond status headers body => rfl
      | fail => rfl
      | redirect target =>
        simp only [if_neg going, counted]
        exact ih (by omega) target (by omega)

end Routes

end RelyingParty
