import RelyingParty.Proofs.Uri.HostPart
import RelyingParty.Proofs.Uri.Path

/-! Behind an authority stand a path, a query and a fragment, cut at their marks. -/

namespace RelyingParty.Uri

open Text (marked)

/-- A path with the query and the fragment behind it. -/
def tail (path : Text) (query fragment : Option Text) : Text :=
  path ++ marked '?' query ++ marked '#' fragment

/-- Whether a path, a query and a fragment are where their marks cut them. -/
structure TailCut (path : Text) (query fragment : Option Text) : Prop where
  /-- A path begins with a slash, unless it is empty. -/
  starts : ∀ c ∈ path.head?, c = '/'
  /-- The first question mark ends the path. -/
  question : '?' ∉ path
  /-- The first number sign ends path and query. -/
  sign : '#' ∉ path ++ marked '?' query

/-- What ends an authority is a mark. -/
theorem isMark_of_endsAuthority {c : Char} (ends : endsAuthority c = true) : isMark c = true := by
  simp only [endsAuthority, Bool.or_eq_true, decide_eq_true_eq] at ends
  rcases ends with (rfl | rfl) | rfl
  · rfl
  · rfl
  · rfl

/-- What stands behind a host part begins with a mark. -/
theorem HostCut.isMark_of_head? {name host behind : Text} {userinfo : Option Text}
    (cut : HostCut name userinfo host behind) : ∀ c ∈ behind.head?, isMark c = true :=
  fun c first => isMark_of_endsAuthority (cut.ends c first)

/-- What stands behind an authority is a path, a query and a fragment. -/
theorem exists_tailCut {behind : Text} (ends : ∀ c ∈ behind.head?, endsAuthority c = true) :
    ∃ path query fragment, behind = tail path query fragment ∧ TailCut path query fragment := by
  obtain ⟨front, fragment, rfl, sign⟩ := Text.exists_marked '#' behind
  obtain ⟨path, query, rfl, question⟩ := Text.exists_marked '?' front
  refine ⟨path, query, fragment, rfl, fun c first => ?_, question, sign⟩
  -- Of the marks that end an authority only the slash is left in front of a path.
  obtain ⟨rest, rfl⟩ := List.head?_eq_some_iff.mp (Option.mem_def.mp first)
  have mark := ends c rfl
  simp only [endsAuthority, Bool.or_eq_true, decide_eq_true_eq] at mark
  rcases mark with (slash | rfl) | rfl
  · exact slash
  · exact absurd (.head _) question
  · exact absurd (.head _) sign

/-- Behind a slash of the path the cuts do not depend on what stands in front of it. -/
theorem exists_tailCut_slash (back : Text) :
    ∃ rest query fragment, ∀ front : Text, (∀ c ∈ front.head?, c = '/') → '?' ∉ front →
      '#' ∉ front → front ++ '/' :: back = tail (front ++ '/' :: rest) query fragment ∧
        TailCut (front ++ '/' :: rest) query fragment := by
  -- The cuts are made in what stands behind the slash.
  obtain ⟨text, fragment, rfl, sign⟩ := Text.exists_marked '#' back
  obtain ⟨rest, query, rfl, question⟩ := Text.exists_marked '?' text
  refine ⟨rest, query, fragment, fun front starts question' sign' => ⟨by simp [tail], ?_, ?_, ?_⟩⟩
  · cases front with
    | nil => simp
    | cons d front => exact starts
  · simp [question, question']
  · simp only [List.mem_append, not_or] at sign
    simp [sign, sign']

/-- A query and a fragment are cut off again. -/
theorem TailCut.cutTail_eq {path : Text} {query fragment : Option Text}
    (cut : TailCut path query fragment) :
    Text.cutTail '#' (tail path query fragment) = (path ++ marked '?' query, fragment) ∧
      Text.cutTail '?' (path ++ marked '?' query) = (path, query) :=
  ⟨Text.cutTail_eq_iff.mpr ⟨rfl, cut.sign⟩, Text.cutTail_eq_iff.mpr ⟨rfl, cut.question⟩⟩

/-- With the path of the URI in it a tail is cut at the same marks. -/
theorem TailCut.normal {path : Text} {query fragment : Option Text}
    (cut : TailCut path query fragment) : TailCut (normalPath path) query fragment where
  starts := by
    intro c first
    rw [head?_normalPath cut.starts] at first
    exact (Option.some.inj first).symm
  question := by
    intro inside
    -- A slash is no question mark, and all else was written.
    rcases mem_of_mem_normalPath cut.starts inside with slash | written
    · exact absurd slash (by decide)
    · exact cut.question written
  sign := by
    intro inside
    refine cut.sign (List.mem_append.mpr ?_)
    -- The sign is not brought in by the path, and the query stays as it is.
    rcases List.mem_append.mp inside with early | late
    · rcases mem_of_mem_normalPath cut.starts early with slash | written
      · exact absurd slash (by decide)
      · exact .inl written
    · exact .inr late

/-- The path of the URI brings only slashes into the tail. -/
theorem TailCut.mem_normal {path : Text} {query fragment : Option Text}
    (cut : TailCut path query fragment) {c : Char}
    (inside : c ∈ tail (normalPath path) query fragment) :
    c = '/' ∨ c ∈ tail path query fragment := by
  -- Only the path changes.
  simp only [tail, List.mem_append] at inside ⊢
  rcases inside with (early | query) | fragment
  · rcases mem_of_mem_normalPath cut.starts early with slash | written
    · exact .inl slash
    · exact .inr (.inl (.inl written))
  · exact .inr (.inl (.inr query))
  · exact .inr (.inr fragment)

/-- A mark stands in front of a part behind it. -/
theorem isMark_of_head?_marked {mark : Char} (known : isMark mark = true) (part : Option Text) :
    ∀ c ∈ (marked mark part).head?, isMark c = true := by
  cases part with
  | none => simp [marked]
  | some part => simpa [marked] using known

/-- A tail is canonical with the path of the URI in it. -/
theorem TailCut.canonical_normal {path : Text} {query fragment : Option Text}
    (cut : TailCut path query fragment)
    (canonical : canonicalEscapes? (tail path query fragment) = some (tail path query fragment)) :
    canonicalEscapes? (tail (normalPath path) query fragment) =
      some (tail (normalPath path) query fragment) := by
  -- The marks of query and fragment part both tails.
  have question := isMark_of_head?_marked (by decide : isMark '?' = true) query
  have sign := isMark_of_head?_marked (by decide : isMark '#' = true) fragment
  obtain ⟨front, last⟩ := (canonical_append_iff sign).mp canonical
  obtain ⟨first, middle⟩ := (canonical_append_iff question).mp front
  have path := canonical_normalPath cut.starts first
  exact (canonical_append_iff sign).mpr ⟨(canonical_append_iff question).mpr ⟨path, middle⟩, last⟩

/-- What begins with a path ends an authority. -/
theorem TailCut.ends {path : Text} {query fragment : Option Text}
    (cut : TailCut path query fragment) :
    ∀ c ∈ (tail path query fragment).head?, endsAuthority c = true := by
  -- The first part that is there begins with its mark.
  intro c first
  cases path with
  | cons d path =>
    have same : d = c := Option.some.inj first
    rw [← same, cut.starts d rfl]
    rfl
  | nil =>
    cases query with
    | some query =>
      have same : '?' = c := Option.some.inj first
      rw [← same]
      rfl
    | none =>
      cases fragment with
      | some fragment =>
        have same : '#' = c := Option.some.inj first
        rw [← same]
        rfl
      | none => cases first

/-- No authority is left in front of a path. -/
theorem takeWhile_path {path : Text} (starts : ∀ c ∈ path.head?, c = '/') :
    path.takeWhile (· ≠ '/') = [] ∧ path.dropWhile (· ≠ '/') = path := by
  cases path with
  | nil => simp
  | cons c rest => simp [starts c rfl]

end RelyingParty.Uri
