import Mathlib.Data.List.TakeWhile
import RelyingParty.Proofs.Text.Casing

/-! A text is cut around its host part, at the marks of its scheme and its authority. -/

namespace RelyingParty.Uri

/-- Whether a character ends the authority of a URI. -/
def endsAuthority (c : Char) : Bool := c = '/' || c = '?' || c = '#'

/-- Case does not make a character end an authority. -/
theorem endsAuthority_toLower (c : Char) : endsAuthority c.toLower = endsAuthority c :=
  Text.toLower_induction (p := fun c d => endsAuthority d = endsAuthority c) (fun _ => rfl)
    (by decide +kernel) c

/-- User information with the at sign that ends it. -/
def signed : Option Text → Text
  | some userinfo => userinfo ++ ['@']
  | none => []

/-- What stands before the host part of a URI. -/
def heading (scheme : Text) (userinfo : Option Text) : Text := scheme ++ "://" ++ signed userinfo

/-- A text cut around its host part, which is what its authority holds behind any user information:
what stands before it, the host part, and what stands behind it. -/
def cutHost? (text : Text) : Option (Text × Text × Text) := do
  let (scheme, rest) ← Text.splitFirst ':' text
  let rest ← Text.dropStart? "//" rest
  let (userinfo, host) := splitUserinfo (rest.takeWhile (!endsAuthority ·))
  return (heading scheme userinfo, host, rest.dropWhile (!endsAuthority ·))

/-- Whether the parts of a URI are where its marks cut it. -/
structure HostCut (scheme : Text) (userinfo : Option Text) (host behind : Text) : Prop where
  /-- The first colon ends the scheme. -/
  colon : ':' ∉ scheme
  /-- The user information is within the authority. -/
  info : ∀ info ∈ userinfo, ∀ c ∈ info, endsAuthority c = false
  /-- The host part is within the authority. -/
  within : ∀ c ∈ host, endsAuthority c = false
  /-- The last at sign ends the user information. -/
  sign : '@' ∉ host
  /-- What stands behind the host part ends the authority. -/
  ends : ∀ c ∈ behind.head?, endsAuthority c = true

/-- The authority ends where what stands behind it begins. -/
theorem takeWhile_authority {authority behind : Text}
    (within : ∀ c ∈ authority, endsAuthority c = false)
    (ends : ∀ c ∈ behind.head?, endsAuthority c = true) :
    (authority ++ behind).takeWhile (!endsAuthority ·) = authority ∧
      (authority ++ behind).dropWhile (!endsAuthority ·) = behind := by
  -- None of its characters ends it, and the next one does.
  have all : ∀ c ∈ authority, (!endsAuthority c) = true := fun c inside => by simp [within c inside]
  exact Text.span_append all fun c first => by simp [ends c first]

/-- The authority of a text is in front of the first character that ends it. -/
theorem authority_of_takeWhile (text : Text) :
    (∀ c ∈ text.takeWhile (!endsAuthority ·), endsAuthority c = false) ∧
      ∀ c ∈ (text.dropWhile (!endsAuthority ·)).head?, endsAuthority c = true := by
  -- Both are what taking and dropping by a test leave.
  constructor
  · intro c inside
    simpa using List.mem_takeWhile_imp inside
  · intro c first
    have := List.head?_dropWhile_not (!endsAuthority ·) text
    rw [Option.mem_def.mp first] at this
    simpa using this

/-- The whole authority is in front of what ends it. -/
theorem HostCut.authority_within {scheme host behind : Text} {userinfo : Option Text}
    (cut : HostCut scheme userinfo host behind) :
    ∀ c ∈ signed userinfo ++ host, endsAuthority c = false := by
  -- The at sign of user information is the one character that no field of the cut speaks of.
  intro c inside
  rcases List.mem_append.mp inside with early | late
  · cases userinfo with
    | none => cases early
    | some info =>
      rcases List.mem_append.mp early with known | sign
      · exact cut.info info rfl c known
      · rw [List.mem_singleton.mp sign]
        rfl
  · exact cut.within c late

/-- Both parts of an authority are within it. -/
theorem HostCut.of_within {scheme host behind : Text} {userinfo : Option Text}
    (colon : ':' ∉ scheme) (within : ∀ c ∈ signed userinfo ++ host, endsAuthority c = false)
    (sign : '@' ∉ host) (ends : ∀ c ∈ behind.head?, endsAuthority c = true) :
    HostCut scheme userinfo host behind where
  colon := colon
  info info has c inside := by
    -- The user information is a part of what is in front of the at sign.
    refine within c (List.mem_append_left _ ?_)
    rw [Option.mem_def.mp has]
    exact List.mem_append_left _ inside
  within c inside := within c (List.mem_append_right _ inside)
  sign := sign
  ends := ends

/-- A host part in another case is cut at the same marks. -/
theorem HostCut.of_asciiLower_eq {name host host' behind : Text} {userinfo : Option Text}
    (cut : HostCut name userinfo host behind)
    (same : Text.asciiLower host' = Text.asciiLower host) :
    HostCut name userinfo host' behind where
  colon := cut.colon
  info := cut.info
  within := by
    intro c inside
    -- Each character has one like it in the other host, case aside.
    obtain ⟨d, member, equal⟩ := Text.exists_of_asciiLower_eq same inside
    rw [← endsAuthority_toLower, ← equal, endsAuthority_toLower]
    exact cut.within d member
  sign := by
    rw [← Text.mem_asciiLower_iff (by decide), same, Text.mem_asciiLower_iff (by decide)]
    exact cut.sign
  ends := cut.ends

/-- An authority is without the marks that end it. -/
theorem not_mem_of_within {authority : Text} (within : ∀ c ∈ authority, endsAuthority c = false)
    {mark : Char} (ends : endsAuthority mark = true) : mark ∉ authority := fun inside => by
  rw [within mark inside] at ends
  cases ends

/-- An authority is what has none of the marks that end one. -/
theorem within_of_not_mem {authority : Text} (slash : '/' ∉ authority) (query : '?' ∉ authority)
    (fragment : '#' ∉ authority) : ∀ c ∈ authority, endsAuthority c = false := by
  -- An authority is ended by three characters only.
  intro c inside
  refine eq_false_of_ne_true fun ends => ?_
  simp only [endsAuthority, Bool.or_eq_true, decide_eq_true_eq] at ends
  rcases ends with (rfl | rfl) | rfl
  · exact slash inside
  · exact query inside
  · exact fragment inside

/-- The user information of an authority ends at its last at sign. -/
theorem splitUserinfo_eq_iff {authority host : Text} {userinfo : Option Text} :
    splitUserinfo authority = (userinfo, host) ↔
      authority = signed userinfo ++ host ∧ '@' ∉ host := by
  -- The at sign that no other follows is the last one.
  constructor
  · intro cut
    unfold splitUserinfo at cut
    cases split : Text.splitLast '@' authority with
    | none =>
      simp only [split] at cut
      cases cut
      exact ⟨rfl, Text.splitLast_eq_none_iff.mp split⟩
    | some parts =>
      simp only [split] at cut
      cases cut
      obtain ⟨whole, sign⟩ := Text.splitLast_eq_some_iff.mp split
      exact ⟨by simp [signed, whole], sign⟩
  · rintro ⟨rfl, sign⟩
    cases userinfo with
    | none => simp [splitUserinfo, signed, Text.splitLast_eq_none_iff.mpr sign]
    | some info =>
      -- The host has no at sign, so the one in front of it is the last one.
      have whole : signed (some info) ++ host = info ++ '@' :: host := by simp [signed]
      simp [splitUserinfo, whole, Text.splitLast_append sign]

/-- The parts of an authority with what ends it behind them. -/
theorem exists_hostCut {name authority behind : Text} (colon : ':' ∉ name)
    (within : ∀ c ∈ authority, endsAuthority c = false)
    (ends : ∀ c ∈ behind.head?, endsAuthority c = true) :
    ∃ userinfo host, authority = signed userinfo ++ host ∧ HostCut name userinfo host behind := by
  -- The cut that is made is one of an authority.
  obtain ⟨whole, sign⟩ := splitUserinfo_eq_iff.mp (Eq.refl (splitUserinfo authority))
  rw [whole] at within
  exact ⟨_, _, whole, .of_within colon within sign ends⟩

/-- The scheme ends at the first colon, and two slashes stand behind it. -/
theorem splitFirst_scheme {scheme : Text} (colon : ':' ∉ scheme) (rest : Text) :
    Text.splitFirst ':' (scheme ++ "://" ++ rest) = some (scheme, '/' :: '/' :: rest) :=
  Text.splitFirst_eq_some_iff.mpr ⟨by simp, colon⟩

/-- A text is cut where its marks are. -/
theorem cutHost?_eq_some_iff {text front host behind : Text} :
    cutHost? text = some (front, host, behind) ↔
      ∃ scheme userinfo, front = heading scheme userinfo ∧ text = front ++ host ++ behind ∧
        HostCut scheme userinfo host behind := by
  constructor
  · -- The steps of the cut leave the scheme, the slashes and the authority, in this order.
    intro found
    simp only [cutHost?, Option.bind_eq_bind, Option.bind_eq_some_iff, Option.pure_def,
      Option.some.injEq, Prod.mk.injEq] at found
    obtain ⟨⟨scheme, rest⟩, first, body, dropped, rfl, rfl, rfl⟩ := found
    obtain ⟨rfl, colon⟩ := Text.splitFirst_eq_some_iff.mp first
    obtain rfl := Text.dropStart?_eq_some_iff.mp dropped
    let authority := body.takeWhile (!endsAuthority ·)
    obtain ⟨whole, sign⟩ : authority =
        signed (splitUserinfo authority).1 ++ (splitUserinfo authority).2 ∧
          '@' ∉ (splitUserinfo authority).2 := splitUserinfo_eq_iff.mp rfl
    obtain ⟨within, ends⟩ := authority_of_takeWhile body
    have parts : ∀ c ∈ signed (splitUserinfo authority).1 ++ (splitUserinfo authority).2,
        endsAuthority c = false := by
      rw [← whole]
      exact within
    refine ⟨scheme, (splitUserinfo authority).1, rfl, ?_, .of_within colon parts sign ends⟩
    -- Authority and what ends it together are all that follows the slashes.
    have rejoined : authority ++ body.dropWhile (!endsAuthority ·) = body :=
      List.takeWhile_append_dropWhile
    rw [heading, List.append_assoc _ (signed _), ← whole, List.append_assoc, rejoined]
    simp
  · -- Each step of the cut finds the mark that the fields put there.
    rintro ⟨scheme, userinfo, rfl, rfl, cut⟩
    have first := splitFirst_scheme cut.colon (signed userinfo ++ (host ++ behind))
    have slashes : Text.dropStart? "//" ('/' :: '/' :: (signed userinfo ++ (host ++ behind))) =
        some (signed userinfo ++ (host ++ behind)) := rfl
    obtain ⟨authority, rest⟩ := takeWhile_authority cut.authority_within cut.ends
    have parts : splitUserinfo (signed userinfo ++ host) = (userinfo, host) :=
      splitUserinfo_eq_iff.mpr ⟨rfl, cut.sign⟩
    rw [List.append_assoc] at authority rest
    rw [List.append_assoc] at first
    simp only [heading, List.append_assoc, cutHost?, first, slashes, authority, rest, parts,
      Option.bind_eq_bind, Option.bind_some, Option.pure_def]

end RelyingParty.Uri
