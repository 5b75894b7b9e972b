import Mathlib.Data.List.Induction
import RelyingParty.Proofs.Text
import RelyingParty.Xrds

/-! A CanonicalID is accepted exactly when the identifiers above it are its beginnings, segment by
segment, from the root authority on. -/

namespace RelyingParty

/-- A provider has authority over the identifiers one segment below its own. -/
theorem Xri.isAuthoritative_iff {provider canonical : Text} :
    isAuthoritative provider canonical = true ↔
      ∃ segment, canonical = provider ++ '!' :: segment ∧ '!' ∉ segment := by
  unfold isAuthoritative
  cases split : Text.splitLast '!' canonical with
  | none =>
    -- An identifier without a mark is below no other one.
    have absent := Text.splitLast_eq_none_iff.mp split
    simp only [Bool.false_eq_true, false_iff, not_exists, not_and]
    rintro segment rfl
    exact absurd (by simp) absent
  | some parts =>
    -- What is compared is the identifier without its last segment.
    obtain ⟨parent, last⟩ := parts
    simp only [decide_eq_true_eq]
    constructor
    · rintro rfl
      exact ⟨last, Text.splitLast_eq_some_iff.mp split⟩
    · rintro ⟨segment, cut⟩
      rw [Text.splitLast_eq_some_iff.mpr cut] at split
      cases split
      rfl

namespace Xrds

/-- The identifier that a root issues along some segments. -/
def issued (root : Text) (segments : List Text) : Text :=
  root ++ segments.flatMap fun segment => '!' :: segment

/-- Whether the identifiers of descriptions, compared in lower case, are those that a root issues
along the segments: each of them along the segments up to its own. -/
structure DescendsAlong (root : Text) (segments : List Text) (xrds : List Xrd) : Prop where
  /-- There is a segment for each description. -/
  length_eq : segments.length = xrds.length
  /-- No segment hides another one. -/
  single : ∀ segment ∈ segments, '!' ∉ segment
  /-- Every description has the identifier of its place. -/
  issues : ∀ i (inside : i < xrds.length), ∃ written, xrds[i].canonicalId = some written ∧
    Text.lower (Xri.withScheme written) = issued root (segments.take (i + 1))

/-- Whether the descriptions are a chain from a root down. -/
def Descends (root : Text) (xrds : List Xrd) : Prop :=
  ∃ segments, DescendsAlong root segments xrds

/-- Whether descriptions, given upwards, lead from an identifier up to a root. -/
inductive LeadsUp (root : Text) : List Xrd → Text → Prop
  | arrived : LeadsUp root [] root
  -- One segment is cut at each description, and the rest is the parent.
  | climbed {xrd : Xrd} {above : List Xrd} {written parent segment : Text}
    (has : xrd.canonicalId = some written)
    (under : Text.lower (Xri.withScheme written) = parent ++ '!' :: segment)
    (single : '!' ∉ segment) (leads : LeadsUp root above parent) :
    LeadsUp root (xrd :: above) (Text.lower (Xri.withScheme written))

/-- An identifier leads up through a description when it is the one of it, and what is left of it
without its last segment leads up through the others. -/
theorem leadsUp_cons_iff {root child : Text} {xrd : Xrd} {above : List Xrd} :
    LeadsUp root (xrd :: above) child ↔
      ∃ written parent segment, xrd.canonicalId = some written ∧
        Text.lower (Xri.withScheme written) = child ∧ child = parent ++ '!' :: segment ∧
        '!' ∉ segment ∧ LeadsUp root above parent := by
  -- A chain of more than one description climbs by one constructor.
  constructor
  · intro leads
    cases leads with
    | climbed has under single leads => exact ⟨_, _, _, has, rfl, under, single, leads⟩
  · rintro ⟨written, parent, segment, has, rfl, under, single, leads⟩
    exact .climbed has under single leads

/-- A climb goes on exactly when the next description has the identifier without its last
segment. -/
theorem climb_cons_eq_ok_iff {child top : Text} {xrd : Xrd} {above : List Xrd} :
    climb child (xrd :: above) = .ok top ↔
      ∃ sought segment, child = sought ++ '!' :: segment ∧ '!' ∉ segment ∧
        sought = Text.lower ((xrd.canonicalId.map Xri.withScheme).getD []) ∧
        climb sought above = .ok top := by
  cases split : Text.splitLast '!' child with
  | none =>
    -- Without a mark there is no segment to leave out, and the climb fails.
    have absent := Text.splitLast_eq_none_iff.mp split
    simp only [climb, split, reduceCtorEq, false_iff, not_exists, not_and]
    rintro sought segment rfl
    exact absurd (by simp) absent
  | some parts =>
    -- The cut at the last mark is the only one whose segment has none.
    obtain ⟨parent, last⟩ := parts
    simp only [climb, split]
    constructor
    · intro climbed
      split at climbed
      · obtain ⟨cut, single⟩ := Text.splitLast_eq_some_iff.mp split
        exact ⟨parent, last, cut, single, ‹_›, climbed⟩
      · cases climbed
    · rintro ⟨sought, segment, cut, single, same, climbed⟩
      rw [Text.splitLast_eq_some_iff.mpr ⟨cut, single⟩] at split
      cases split
      rw [if_pos same]
      exact climbed

/-- A climb that does not arrive is a fraud. -/
theorem climb_ok_or_fraud (child : Text) (above : List Xrd) :
    (∃ top, climb child above = .ok top) ∨
      ∃ claimed authority, climb child above = .error (.fraud claimed authority) := by
  -- Both refusals of a step are frauds, and so is what the rest of the climb refuses.
  fun_induction climb child above with
  | case1 child => exact .inl ⟨child, rfl⟩
  | case2 child xrd above parent _ => exact .inr ⟨child, parent, rfl⟩
  | case3 _ _ _ _ _ _ ih => exact ih
  | case4 _ _ _ parent sought => exact .inr ⟨sought, parent, rfl⟩

/-- A climb arrives below the root exactly when the identifier without its last segment leads up
to it. -/
theorem climb_arrives_iff {root child : Text} {above : List Xrd} :
    (∃ top, climb child above = .ok top ∧ Xri.isAuthoritative root top = true) ↔
      ∃ parent segment, child = parent ++ '!' :: segment ∧ '!' ∉ segment ∧
        LeadsUp root above parent := by
  -- The identifier sought becomes the child of the next description upwards.
  induction above generalizing child with
  | nil =>
    simp only [climb, Except.ok.injEq, exists_eq_left', Xri.isAuthoritative_iff]
    constructor
    · rintro ⟨segment, cut, single⟩
      exact ⟨root, segment, cut, single, .arrived⟩
    · rintro ⟨parent, segment, cut, single, leads⟩
      cases leads
      exact ⟨segment, cut, single⟩
  | cons xrd above ih =>
    constructor
    · rintro ⟨top, climbed, authoritative⟩
      obtain ⟨sought, segment, cut, single, same, rest⟩ := climb_cons_eq_ok_iff.mp climbed
      obtain ⟨parent, next, under, alone, leads⟩ := ih.mp ⟨top, rest, authoritative⟩
      refine ⟨sought, segment, cut, single, ?_⟩
      cases has : xrd.canonicalId with
      | none =>
        -- A missing identifier counts as the empty one, which has no segment to lose.
        simp [has, Text.lower, Text.lowerFrom, under] at same
      | some written =>
        rw [has] at same
        exact leadsUp_cons_iff.mpr
          ⟨written, parent, next, has, same.symm, under, alone, leads⟩
    · rintro ⟨sought, segment, cut, single, leads⟩
      obtain ⟨written, parent, next, has, same, under, alone, above'⟩ := leadsUp_cons_iff.mp leads
      obtain ⟨top, rest, authoritative⟩ := ih.mpr ⟨parent, next, under, alone, above'⟩
      refine ⟨top, climb_cons_eq_ok_iff.mpr ?_, authoritative⟩
      exact ⟨sought, segment, cut, single, by simp [has, same], rest⟩

/-- One more segment is issued below the identifier so far. -/
theorem issued_append (root : Text) (segments : List Text) (segment : Text) :
    issued root (segments ++ [segment]) = issued root segments ++ '!' :: segment := by
  simp [issued]

/-- A chain grows by a description whose identifier is one segment below the last one. -/
theorem descendsAlong_append_iff {root : Text} {segments : List Text} {segment : Text}
    {xrds : List Xrd} {xrd : Xrd} :
    DescendsAlong root (segments ++ [segment]) (xrds ++ [xrd]) ↔
      DescendsAlong root segments xrds ∧ '!' ∉ segment ∧ ∃ written,
        xrd.canonicalId = some written ∧
        Text.lower (Xri.withScheme written) = issued root segments ++ '!' :: segment := by
  constructor
  · -- The places of the shorter chain are places of the longer one, before its last segment.
    rintro ⟨lengths, single, issues⟩
    have lengths' : segments.length = xrds.length := by simpa using lengths
    have kept : ∀ s ∈ segments, '!' ∉ s := fun s inside => single s (by simp [inside])
    refine ⟨⟨lengths', kept, ?_⟩, single segment (by simp), ?_⟩
    · intro i inside
      have place := issues i (by simp; omega)
      rw [List.getElem_append_left inside] at place
      rwa [List.take_append_of_le_length (by omega)] at place
    · have place := issues xrds.length (by simp)
      simpa [List.take_of_length_le, lengths', issued_append] using place
  · rintro ⟨⟨lengths, single, issues⟩, alone, own⟩
    refine ⟨by simp [lengths], ?_, ?_⟩
    · intro s inside
      rcases List.mem_append.mp inside with earlier | last
      · exact single s earlier
      · rw [List.mem_singleton.mp last]
        exact alone
    · -- The last place is the new description's own, along all segments.
      intro i inside
      by_cases earlier : i < xrds.length
      · rw [List.getElem_append_left earlier, List.take_append_of_le_length (by omega)]
        exact issues i earlier
      · obtain rfl : i = xrds.length := by
          simp at inside
          omega
        simpa [List.take_of_length_le, lengths, issued_append] using own

/-- The descriptions lead up from an identifier exactly when they are a chain down to it. -/
theorem leadsUp_reverse_iff {root child : Text} {xrds : List Xrd} :
    LeadsUp root xrds.reverse child ↔
      ∃ segments, DescendsAlong root segments xrds ∧ child = issued root segments := by
  -- The last description is the first one upwards, and its segment the last one.
  induction xrds using List.reverseRecOn generalizing child with
  | nil =>
    constructor
    · intro leads
      cases leads
      exact ⟨[], ⟨rfl, by simp, by simp⟩, by simp [issued]⟩
    · rintro ⟨segments, ⟨lengths, _, _⟩, rfl⟩
      obtain rfl := List.length_eq_zero_iff.mp lengths
      simpa [issued] using LeadsUp.arrived
  | append_singleton xrds xrd ih =>
    rw [List.reverse_append, List.reverse_singleton, List.singleton_append, leadsUp_cons_iff]
    constructor
    · rintro ⟨written, parent, segment, has, same, under, single, leads⟩
      obtain ⟨segments, along, rfl⟩ := ih.mp leads
      refine ⟨segments ++ [segment], descendsAlong_append_iff.mpr ?_, ?_⟩
      · exact ⟨along, single, written, has, same.trans under⟩
      · rw [issued_append, under]
    · -- There is a last segment, as there is a last description.
      rintro ⟨segments, along, rfl⟩
      obtain ⟨segments', segment, rfl⟩ : ∃ front segment, segments = front ++ [segment] := by
        have := along.length_eq
        exact List.eq_nil_or_concat' segments |>.resolve_left (by rintro rfl; simp at this)
      obtain ⟨along', single, written, has, same⟩ := descendsAlong_append_iff.mp along
      rw [issued_append]
      exact ⟨written, _, segment, has, same, rfl, single, ih.mpr ⟨segments', along', rfl⟩⟩

/-- The CanonicalID of the last description is climbed from, and the root authority judges where
the climb arrives. -/
theorem canonicalId_eq {document : Xrds} {last : Xrd} {above : List Xrd} {written : Text}
    (upwards : document.xrds.reverse = last :: above) (has : last.canonicalId = some written)
    (iname : Text) :
    document.canonicalId iname =
      match climb (Text.lower (Xri.withScheme written)) above with
      | .ok top =>
        if Xri.isAuthoritative (Text.lower (Xri.rootAuthority iname)) top then .ok (some written)
        else .error (.fraud top (Text.lower (Xri.rootAuthority iname)))
      | .error fault => .error fault := by
  -- Only the climb is left open, and its two ends are those of the right side.
  simp only [canonicalId, upwards, has]
  cases climb (Text.lower (Xri.withScheme written)) above with
  | ok top => rfl
  | error fault => rfl

/-- The CanonicalID of the last description is returned as written exactly when the identifiers of
all descriptions are a chain down from the root authority of the name; when they are not it is a
fraud, and when there is no CanonicalID there is nothing to verify. -/
theorem canonicalId_eq_ok_iff_descends {document : Xrds} {last : Xrd}
    (own : document.xrds.getLast? = some last) (iname : Text) :
    (last.canonicalId = none → document.canonicalId iname = .ok none) ∧
      ∀ written, last.canonicalId = some written →
        (document.canonicalId iname = .ok (some written) ↔
          Descends (Text.lower (Xri.rootAuthority iname)) document.xrds) ∧
        (¬Descends (Text.lower (Xri.rootAuthority iname)) document.xrds →
          ∃ claimed authority, document.canonicalId iname = .error (.fraud claimed authority)) := by
  generalize rootIs : Text.lower (Xri.rootAuthority iname) = root
  obtain ⟨front, whole⟩ := List.getLast?_eq_some_iff.mp own
  have upwards : document.xrds.reverse = last :: front.reverse := by simp [whole]
  refine ⟨fun missing => by simp [canonicalId, upwards, missing], fun written has => ?_⟩
  -- The last description is a step of the chain itself, below where the climb arrives.
  have chain : (∃ top, climb (Text.lower (Xri.withScheme written)) front.reverse = .ok top ∧
      Xri.isAuthoritative root top = true) ↔ Descends root document.xrds := by
    rw [climb_arrives_iff]
    constructor
    · rintro ⟨parent, segment, under, single, leads⟩
      have up := leadsUp_cons_iff.mpr ⟨written, parent, segment, has, rfl, under, single, leads⟩
      rw [← upwards] at up
      obtain ⟨segments, along, _⟩ := leadsUp_reverse_iff.mp up
      exact ⟨segments, along⟩
    · rintro ⟨segments, along⟩
      have up := leadsUp_reverse_iff.mpr ⟨segments, along, rfl⟩
      rw [upwards] at up
      obtain ⟨written', parent, segment, has', same, under, single, leads⟩ := leadsUp_cons_iff.mp up
      rw [has] at has'
      cases has'
      exact ⟨parent, segment, same.trans under, single, leads⟩
  rw [← chain, canonicalId_eq upwards has, rootIs]
  -- Of a climb that arrives the root judges; any other has ended in a fraud already.
  rcases climb_ok_or_fraud (Text.lower (Xri.withScheme written)) front.reverse with
    ⟨top, arrived⟩ | ⟨claimed, authority, fraud⟩
  · by_cases authoritative : Xri.isAuthoritative root top = true
    · simp [arrived, authoritative]
    · simp [arrived, authoritative]
  · simp [fraud]

/-- A chain of three descriptions under the root of global names is verified, case aside. -/
theorem canonicalId_three_levels :
    let document : Xrds := ⟨[⟨some "=!A", []⟩, ⟨some "=!a!B", []⟩, ⟨some "=!A!b!C", []⟩]⟩
    document.xrds.getLast? = some ⟨some "=!A!b!C", []⟩ ∧
      document.canonicalId "=name" = .ok (some "=!A!b!C".toList) := by
  -- The segments of the chain are given, in lower case as they are compared.
  refine ⟨rfl, ?_⟩
  refine (((canonicalId_eq_ok_iff_descends rfl "=name").2 _ rfl).1).mpr ?_
  exact ⟨["a", "b", "c"], rfl, by decide, by decide⟩

end Xrds

end RelyingParty
