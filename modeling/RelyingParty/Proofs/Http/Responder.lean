import RelyingParty.Proofs.Http.HopCount
import RelyingParty.Proofs.Http.Routes
import RelyingParty.Proofs.Table

/-! A responder resolves every table of routes, with cycles too: a fetch goes from URL to URL along
redirects and ends at the first URL that is none, or where the limit is reached. -/

namespace RelyingParty

namespace Setting

/-- The last setting for a URL. -/
def lastFor? (settings : List Setting) (url : Text) : Option Setting :=
  settings.findRev? fun setting => setting.url = url

/-- Where a setting redirects to. -/
def target? : Setting → Option Text
  | redirect _ target => some target
  | _ => none

/-- Where a URL redirects to, as the last setting for it says. -/
def hop? (settings : List Setting) (url : Text) : Option Text :=
  (lastFor? settings url).bind target?

/-- Whether settings lead from a URL to another one in some hops. -/
inductive Leads (settings : List Setting) (first : Text) : (hops : Nat) → (url : Text) → Prop
  | here : Leads settings first 0 first
  | hop {hops : Nat} {url target : Text} (before : Leads settings first hops url)
      (redirects : hop? settings url = some target) : Leads settings first (hops + 1) target

/-- What is answered at a URL where a fetch ends, as the last setting for it says; a redirect is one
too many there. -/
def answerAt (settings : List Setting) (limit : Nat) (url : Text) :
    Except TransportFault Response :=
  match lastFor? settings url with
  | some (.respond _ status contentType body) =>
    .ok ⟨status, contentType.toList.map fun value => ("content-type", value), body, url⟩
  | some (.respondWithHeaders _ status headers body) =>
    .ok ⟨status, Table.ofPairs (headers.map fun header => (Text.asciiLower header.1, header.2)),
      body, url⟩
  | some (.redirect _ _) => .error (.tooManyRedirects url limit)
  | some (.fail _) => .error (.network url)
  | none => .error .io

variable {settings : List Setting} {first url : Text}

/-- The last setting for a URL is the one that is added for it, or the one before. -/
theorem lastFor?_append (settings : List Setting) (setting : Setting) (url : Text) :
    lastFor? (settings ++ [setting]) url =
      if setting.url = url then some setting else lastFor? settings url := by
  -- What stands behind all other settings is looked at first.
  unfold lastFor?
  induction settings with
  | nil => by_cases own : setting.url = url <;> simp [List.findRev?, own]
  | cons other rest ih =>
    rw [List.cons_append, List.findRev?, ih]
    by_cases own : setting.url = url
    · simp [own]
    · simp [own, List.findRev?]

/-- The hops from a URL end within a limit, or reach it. -/
theorem exists_leads (settings : List Setting) (first : Text) (limit : Nat) :
    ∃ hops ≤ limit, ∃ url, Leads settings first hops url ∧
      (hop? settings url = none ∨ hops = limit) := by
  -- A limit that is one greater allows one hop more, if the last URL redirects.
  induction limit with
  | zero => exact ⟨0, Nat.le_refl 0, first, .here, .inr rfl⟩
  | succ limit ih =>
    obtain ⟨hops, within, url, leads, ends⟩ := ih
    cases hop : hop? settings url with
    | none => exact ⟨hops, by omega, url, leads, .inl hop⟩
    | some target =>
      obtain rfl : hops = limit := ends.resolve_left fun none => nomatch hop.symm.trans none
      exact ⟨hops + 1, Nat.le_refl _, target, leads.hop hop, .inr rfl⟩

end Setting

namespace Responder

open Setting

variable {settings : List Setting} {first url : Text}

/-- A setting more decides how its URL answers, and no other one. -/
theorem get?_set (responder : Responder) (setting : Setting) (url : Text) :
    Table.get? url (responder.set setting).routes =
      if setting.url = url then some setting.route else Table.get? url responder.routes :=
  Table.get?_insert setting.url url setting.route responder.routes

/-- A URL answers as the last setting for it says. -/
theorem get?_ofSettings (settings : List Setting) (url : Text) :
    Table.get? url (ofSettings settings).routes = (lastFor? settings url).map Setting.route := by
  -- The induction is on the settings from the last one on.
  induction settings using List.reverseRecOn with
  | nil => rfl
  | append_singleton settings setting ih =>
    rw [ofSettings, List.foldl_append, List.foldl_cons, List.foldl_nil, ← ofSettings, get?_set, ih,
      lastFor?_append]
    by_cases own : setting.url = url
    · rw [if_pos own, if_pos own]
      rfl
    · rw [if_neg own, if_neg own]

/-- A URL redirects exactly when the last setting for it does. -/
theorem get?_eq_redirect_iff {target : Text} :
    Table.get? url (ofSettings settings).routes = some (.redirect target) ↔
      hop? settings url = some target := by
  -- Of the kinds of settings only one is a redirect.
  rw [get?_ofSettings, hop?]
  cases lastFor? settings url with
  | none => simp
  | some setting => cases setting <;> simp [Setting.route, Setting.target?, Routes.respond]

/-- The answer at a URL is that of its route. -/
theorem answerAt_ofSettings (settings : List Setting) (limit : Nat) (url : Text) :
    (ofSettings settings).routes.answerAt limit url = Setting.answerAt settings limit url := by
  -- Each kind of setting is answered as its route.
  unfold Routes.answerAt Setting.answerAt
  rw [get?_ofSettings]
  cases lastFor? settings url with
  | none => rfl
  | some setting =>
    cases setting with
    | respond url status contentType body => cases contentType <;> rfl
    | respondWithHeaders => rfl
    | redirect => rfl
    | fail => rfl

/-- A fetch that has followed some hops goes on from the URL where they lead. -/
theorem follow_of_leads {hops left : Nat} (leads : Leads settings first hops url)
    (within : hops ≤ left) (limit : Nat) :
    (ofSettings settings).routes.follow limit left first =
      (ofSettings settings).routes.follow limit (left - hops) url := by
  -- The induction is on the hops; each one takes one redirect from those that are left.
  induction leads with
  | here => rfl
  | @hop hops url target before redirects ih =>
    have redirected := get?_eq_redirect_iff.mpr redirects
    have more : left - hops = (left - (hops + 1)) + 1 := by omega
    rw [ih (by omega), more, Routes.follow, redirected]

/-- A fetch ends where no redirect or no hop is left, and gives what is answered there. -/
theorem follow_of_ends {hops limit : Nat} (leads : Leads settings first hops url)
    (within : hops ≤ limit) (ends : hop? settings url = none ∨ hops = limit) :
    (ofSettings settings).routes.follow limit limit first =
      Setting.answerAt settings limit url := by
  -- The fetch goes along with the settings, and stops for one of the two reasons.
  rw [follow_of_leads leads within, ← answerAt_ofSettings]
  apply Routes.follow_eq_of_ends
  rcases ends with none | rfl
  · refine .inr fun target redirected => ?_
    rw [get?_eq_redirect_iff.mp redirected] at none
    cases none
  · exact .inl (Nat.sub_self hops)

/-- Every fetch ends, whatever settings have made the routes and however they redirect in circles.
The hops from the URL of the request end within the limit at one that does not redirect, or the
limit is reached, and the fetch gives what the last setting says of the URL where they end: its
response with that URL, its failure, or the fault that names it when it redirects once more. A
setting replaces an earlier one for the same URL, the fetch keeps the request behind the earlier
ones and leaves the routes, and the count of hops in eight bits always fits. -/
theorem fetch_resolves (settings : List Setting) (requests : List Request) (request : Request)
    (limit : UInt8) (limited : request.redirectLimit.getD defaultRedirectLimit = limit.toNat) :
    let responder : Responder := { ofSettings settings with requests }
    let fetched := responder.fetch request
    (∃ hops ≤ limit.toNat, ∃ url, Leads settings request.url hops url ∧
        (hop? settings url = none ∨ hops = limit.toNat)) ∧
      (∀ hops ≤ limit.toNat, ∀ url, Leads settings request.url hops url →
        hop? settings url = none ∨ hops = limit.toNat →
          fetched.1 = Setting.answerAt settings limit.toNat url) ∧
      (∀ setting url, Table.get? url (responder.set setting).routes =
        if setting.url = url then some setting.route else Table.get? url responder.routes) ∧
      fetched.2 = { responder with requests := requests ++ [request] } ∧
      responder.routes.followCounted? limit 0 request.url = some fetched.1 := by
  intro responder fetched
  -- The fetch of a responder is that of its routes.
  have followed : fetched.1 =
      (ofSettings settings).routes.follow limit.toNat limit.toNat request.url := by
    show (ofSettings settings).routes.fetch request = _
    rw [Routes.fetch, limited]
  refine ⟨exists_leads settings request.url limit.toNat, ?_, responder.get?_set, rfl, ?_⟩
  · intro hops within url leads ends
    rw [followed]
    exact follow_of_ends leads within ends
  · rw [followed]
    exact (ofSettings settings).routes.followCounted?_eq (Nat.zero_le _) request.url

/-- Two URLs that redirect to each other; the first one failed before it was set anew. -/
def circle : List Setting :=
  [.fail "http://a/", .redirect "http://b/" "http://a/", .redirect "http://a/" "http://b/"]

/-- An even number of hops leads back to the first URL. -/
theorem leads_circle (rounds : Nat) : Leads circle "http://a/" (2 * rounds) "http://a/" := by
  -- By induction on the rounds, each of which is two hops.
  induction rounds with
  | zero => exact .here
  | succ rounds ih =>
    have away : Leads circle "http://a/" (2 * rounds + 1) "http://b/" := ih.hop (by decide)
    exact away.hop (by decide)

/-- A fetch that goes in a circle ends at the greatest limit too, at the URL that an odd number of
hops leads to. -/
theorem fetch_resolves_circle :
    let request : Request := ⟨"http://a/", none, [], some 255⟩
    (ofSettings circle).fetch request =
      (.error (.tooManyRedirects "http://b/" 255),
        { ofSettings circle with requests := [request] }) := by
  -- The greatest limit is an odd number, so the circle is left half way round.
  intro request
  obtain ⟨_, answered, _, kept, _⟩ := fetch_resolves circle [] request 255 rfl
  have leads : Leads circle "http://a/" 255 "http://b/" := (leads_circle 127).hop (by decide)
  refine Prod.ext ?_ kept
  exact answered 255 (Nat.le_refl 255) "http://b/" leads (.inr rfl)

end Responder

end RelyingParty
