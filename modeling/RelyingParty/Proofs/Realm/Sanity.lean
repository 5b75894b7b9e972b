import Mathlib.Data.List.DropRight
import RelyingParty.Proofs.Realm.Coverage

/-! A sane realm is narrow: what it admits stands under its own labels, of which it has two at
least. It stays sane without its wildcard, and with more labels in front. -/

namespace RelyingParty.Realm

/-- More labels in front of a host stay in front of those that count. -/
theorem hostLabels_of_append {host whole : Text} {front : List Text}
    (parts : Text.splitAll '.' whole = front ++ Text.splitAll '.' host)
    (kept : hostLabels host ≠ []) : hostLabels whole = front ++ hostLabels host := by
  -- Empty labels are dropped from the right, and never past the labels that are kept.
  have back : (Text.splitAll '.' host).reverse.dropWhile (· = []) ≠ [] := by
    simpa [hostLabels] using kept
  simp [hostLabels, parts, List.dropWhile_append, back]

/-- The labels that count end with those of every host that ends the whole one. -/
theorem hostLabels_suffix {host whole : Text}
    (ends : Text.splitAll '.' host <:+ Text.splitAll '.' whole) :
    hostLabels host <:+ hostLabels whole := by
  -- A host whose labels all count keeps them at the end of the longer one.
  obtain ⟨front, parts⟩ := ends
  by_cases kept : hostLabels host = []
  · rw [kept]
    exact List.nil_suffix
  · rw [hostLabels_of_append parts.symm kept]
    exact List.suffix_append front (hostLabels host)

/-- Whether the labels of a host are sane: none is empty, the last two are a known top-level domain
with a label below it, without asterisks, and under a wildcard there is a third one when both look
like a registry. -/
structure SaneLabels (wildcard : Bool) (front : List Text) (second top : Text) : Prop where
  /-- The last label is a top-level domain. -/
  known : isTopLevel top = true
  /-- No label is empty. -/
  filled : [] ∉ front ++ [second, top]
  /-- The last two labels are taken literally. -/
  literal : '*' ∉ second ∧ '*' ∉ top
  /-- A registry has a label in front when all of its hosts are meant. -/
  registry : wildcard = true → top.length = 2 → second.length ≤ 3 → front ≠ []

/-- With two labels or more, each condition of the judgement is one on them. -/
theorem hasSaneLabels_cons_iff {wildcard : Bool} {front : List Text} {second top : Text} :
    hasSaneLabels wildcard (top :: second :: front.reverse) = true ↔
      SaneLabels wildcard front second top := by
  -- The asterisks, the empty labels and the registry are asked for one after the other.
  have literal : (!([top, second].any (·.contains '*'))) = true ↔ '*' ∉ second ∧ '*' ∉ top := by
    simp [and_comm]
  have filled : (!(top :: second :: front.reverse).contains []) = true ↔
      [] ∉ front ++ [second, top] := by
    have same : [] ∈ top :: second :: front.reverse ↔ [] ∈ front ++ [second, top] := by
      rw [← List.mem_reverse]
      simp
    simp [← same]
  have registry : (!(wildcard && top.length == 2 && second.length ≤ 3 && front.reverse.isEmpty)) =
      true ↔ (wildcard = true → top.length = 2 → second.length ≤ 3 → front ≠ []) := by
    simp [Classical.or_iff_not_imp_left]
  simp only [hasSaneLabels, List.take, Bool.and_eq_true, literal, filled, registry]
  -- The two sides list the same conditions in another order.
  constructor
  · rintro ⟨⟨literal, filled⟩, known, registry⟩
    exact ⟨known, filled, literal, registry⟩
  · rintro ⟨known, filled, literal, registry⟩
    exact ⟨⟨literal, filled⟩, known, registry⟩

/-- The judgement on labels, given from the last to the first, is that they are sane. -/
theorem hasSaneLabels_iff {wildcard : Bool} {labels : List Text} :
    hasSaneLabels wildcard labels.reverse = true ↔
      ∃ front second top, labels = front ++ [second, top] ∧
        SaneLabels wildcard front second top := by
  constructor
  · intro judged
    -- With fewer than two labels there is nothing to judge.
    cases backwards : labels.reverse with
    | nil => simp [hasSaneLabels, backwards] at judged
    | cons top below =>
    cases below with
    | nil => simp [hasSaneLabels, backwards] at judged
    | cons second front =>
      have forwards : labels = front.reverse ++ [second, top] := by
        rw [← List.reverse_reverse labels, backwards]
        simp
      rw [backwards, ← List.reverse_reverse front] at judged
      exact ⟨front.reverse, second, top, forwards, hasSaneLabels_cons_iff.mp judged⟩
  · -- Backwards, the two last labels come first and can be judged.
    rintro ⟨front, second, top, rfl, sane⟩
    rw [List.reverse_append]
    exact hasSaneLabels_cons_iff.mpr sane

/-- A realm of a host other than `localhost` is sane exactly when its labels are. -/
theorem isSane_iff {realm : Realm} (named : realm.host ≠ []) (remote : realm.host ≠ "localhost") :
    realm.isSane = true ↔ ∃ front second top, hostLabels realm.host = front ++ [second, top] ∧
      SaneLabels realm.wildcard front second top := by
  rw [isSane, if_neg named, if_neg remote]
  exact hasSaneLabels_iff

/-- A realm stays sane under a host with more labels in front of it, and there has to be one of them
under a wildcard. -/
theorem isSane_of_append {realm other : Realm} (sane : realm.isSane = true)
    (named : realm.host ≠ []) (remote : realm.host ≠ "localhost") {more : List Text}
    (parts : Text.splitAll '.' other.host = more ++ Text.splitAll '.' realm.host)
    (filled : [] ∉ more) (room : other.wildcard = true → more ≠ []) : other.isSane = true := by
  obtain ⟨front, second, top, labels, known, own, literal, _⟩ := (isSane_iff named remote).mp sane
  have kept : hostLabels realm.host ≠ [] := by simp [labels]
  have whole : hostLabels other.host = (more ++ front) ++ [second, top] := by
    rw [hostLabels_of_append parts kept, labels, List.append_assoc]
  -- Neither no host nor `localhost` has two labels that count.
  have named' : other.host ≠ [] := by
    intro same
    have none : hostLabels [] = [] := rfl
    simp [same, none] at whole
  have remote' : other.host ≠ "localhost" := by
    intro same
    have one : (hostLabels "localhost").length = 1 := by decide
    have two := congrArg List.length whole
    simp only [same, one, List.length_append, List.length_cons] at two
    omega
  -- The last two labels are those of the realm, and none of the labels in front is empty.
  refine (isSane_iff named' remote').mpr ⟨more ++ front, second, top, whole, known, ?_, literal, ?_⟩
  · simp only [List.append_assoc, List.mem_append, not_or] at own ⊢
    exact ⟨filled, own⟩
  · intro wildcard _ _ none
    exact room wildcard (List.append_eq_nil_iff.mp none).1

/-- Whether a realm is narrow: whatever it admits stands under its labels, and there are two of
them, or three when it is a wildcard over what looks like a registry. -/
structure IsNarrow (realm : Realm) : Prop where
  /-- The labels of every host that is admitted end with those of the realm. -/
  under : ∀ url, realm.admits url = true →
    ∃ uri, Uri.parse url = .ok uri ∧ hostLabels realm.host <:+ hostLabels uri.host
  /-- A top-level domain alone is not enough. -/
  two : 2 ≤ (hostLabels realm.host).length
  /-- Nor is what looks like a registry, when all of its hosts are meant. -/
  registry : realm.wildcard = true → ∀ front second top,
    hostLabels realm.host = front ++ [second, top] → top.length = 2 → second.length ≤ 3 →
      3 ≤ (hostLabels realm.host).length

/-- A realm of a host covers hosts alone that end with its labels. -/
theorem hostLabels_suffix_of_admits {realm : Realm} (named : realm.host ≠ []) {url : Text}
    (admitted : realm.admits url = true) :
    ∃ uri, Uri.parse url = .ok uri ∧ hostLabels realm.host <:+ hostLabels uri.host := by
  obtain ⟨locator, located, _, _, _, covered, _⟩ := admits_iff.mp admitted
  obtain ⟨uri, read, rfl⟩ := Locator.ofText?_eq_some_iff.mp located
  refine ⟨uri, read, hostLabels_suffix ?_⟩
  -- The host is the realm's or stands under it; the wildcard over every host has none of its own.
  rcases coversHost_iff.mp covered with same | ⟨_, every | ends⟩
  · rw [← same]
    exact List.suffix_rfl
  · exact absurd every named
  · exact ends

/-- A sane realm of a host other than `localhost` is narrow, and sanity is monotone: it is kept by
every realm of the same host without a wildcard, and by every realm, wildcard or not, of a host with
more labels in front, none of them empty. -/
theorem isSane_narrow_and_mono {realm : Realm} (sane : realm.isSane = true)
    (named : realm.host ≠ []) (remote : realm.host ≠ "localhost") :
    realm.IsNarrow ∧
      (∀ other : Realm, other.host = realm.host → other.wildcard = false → other.isSane = true) ∧
      ∀ (other : Realm) (more : List Text), more ≠ [] → [] ∉ more →
        Text.splitAll '.' other.host = more ++ Text.splitAll '.' realm.host →
          other.isSane = true := by
  -- All of it is read off the last two labels and those in front of them.
  obtain ⟨front, second, top, labels, lawful⟩ := (isSane_iff named remote).mp sane
  refine ⟨⟨fun url admitted => hostLabels_suffix_of_admits named admitted, ?_, ?_⟩, ?_, ?_⟩
  · simp [labels]
  · intro wildcard front' second' top' labels' short small
    -- Both ways to name the last two labels name the same ones.
    rw [labels] at labels'
    obtain ⟨rfl, same⟩ := List.append_inj' labels' rfl
    cases same
    have room := List.length_pos_iff.mpr (lawful.registry wildcard short small)
    simp only [labels, List.length_append, List.length_cons, List.length_nil]
    omega
  · -- Without a wildcard no label has to stand in front of a registry.
    intro other host plain
    have parts : Text.splitAll '.' other.host = [] ++ Text.splitAll '.' realm.host := by simp [host]
    exact isSane_of_append sane named remote parts List.not_mem_nil (by simp [plain])
  · intro other more some' filled parts
    exact isSane_of_append sane named remote parts filled fun _ => some'

/-- A wildcard over a host with a dot at its end, below a registry, covers a shop there; it is sane
without its wildcard too, and so is a wildcard over the shop. -/
theorem isSane_narrow_below_registry :
    ∃ realm, parse? "http://*.example.co.uk./" = some realm ∧ realm.isSane = true ∧
      realm.host ≠ [] ∧ realm.host ≠ "localhost" ∧
      (∃ uri, Uri.parse "http://Shop.example.co.uk./cart" = .ok uri ∧
        hostLabels realm.host <:+ hostLabels uri.host) ∧
      3 ≤ (hostLabels realm.host).length ∧
      isSane { realm with wildcard := false } = true ∧
      isSane { realm with host := "shop.example.co.uk." } = true := by
  have parsed : parse? "http://*.example.co.uk./" = some
      ⟨"http://*.example.co.uk./", .http, true, "example.co.uk.", 80, "/"⟩ := by
    decide +kernel
  have sane : isSane
      ⟨"http://*.example.co.uk./", .http, true, "example.co.uk.", 80, "/"⟩ = true := by
    decide +kernel
  -- All three consequences are drawn from the one judgement.
  obtain ⟨narrow, plain, longer⟩ := isSane_narrow_and_mono sane (by decide) (by decide)
  refine ⟨_, parsed, sane, by decide, by decide, narrow.under _ (by decide +kernel), ?_, ?_, ?_⟩
  · exact narrow.registry rfl ["example"] "co" "uk" (by decide) rfl (by decide)
  · exact plain _ rfl rfl
  · exact longer _ ["shop"] (by simp) (by simp) (by decide)

end RelyingParty.Realm
