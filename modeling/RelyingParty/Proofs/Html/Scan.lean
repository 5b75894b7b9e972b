import RelyingParty.Html.Scan
import RelyingParty.Proofs.Html.Hidden
import RelyingParty.Proofs.Html.Tag

/-! What a scan reports of a text up to a tag does not depend on what follows, unless a tag reaches
across. -/

namespace RelyingParty.Html

/-- The tag that a step reports. -/
def Step.tag? : Step → Option Tag
  | .tag found => some found
  | _ => none

/-- The tags that a scan reports, in order. -/
def tags (scan : List Step) : List Tag := scan.filterMap Step.tag?

/-- A text without an opening bracket is passed over. -/
theorem steps_of_plain {text : Text} (start : text.dropWhile (· ≠ '<') = []) : steps text = [] := by
  -- The other case has a bracket to begin with.
  rw [steps]
  split
  · rfl
  · rename_i other
    cases start.symm.trans other

/-- Behind the first opening bracket a tag is reported, a declaration is passed over, and all else
is looked through for the next bracket. -/
theorem steps_of_start {text rest : Text} {c : Char}
    (start : text.dropWhile (· ≠ '<') = c :: rest) :
    steps text =
      if opensTag rest then
        match Tag.read? rest with
        | some (tag, behind) => .tag tag :: steps behind
        | none => [.malformed]
      else if isDeclaration rest then
        match Text.splitFirst '>' rest with
        | some (_, behind) => steps behind
        | none => .malformed :: steps rest
      else steps rest := by
  -- The branches are those of the function, which is unfolded once.
  rw [steps]
  split
  · rename_i other
    cases start.symm.trans other
  · rename_i other
    cases start.symm.trans other
    split
    · split
      · rename_i read
        simp only [read]
      · rename_i read
        simp only [read]
    · split
      · split
        · rename_i closed
          simp only [closed]
        · rename_i closed
          simp only [closed]
      · rfl

/-- A text of which a tag is reported has an opening bracket, and a closing one behind it. -/
theorem exists_of_tag_mem_steps {text : Text} {tag : Tag} (reported : Step.tag tag ∈ steps text) :
    ∃ c rest, text.dropWhile (· ≠ '<') = c :: rest ∧ '>' ∈ rest := by
  have later : ∀ {rest : Text}, (∃ c tail, rest.dropWhile (· ≠ '<') = c :: tail ∧ '>' ∈ tail) →
      '>' ∈ rest := by
    intro rest behind
    obtain ⟨c, tail, start, inside⟩ := behind
    exact (List.dropWhile_sublist _).subset (start ▸ List.mem_cons_of_mem c inside)
  -- By induction on the scan: the tag is read here, or behind what is passed over.
  fun_induction steps text with
  | case1 => cases reported
  | case2 text c rest start opens found behind read ih =>
    obtain ⟨front, rfl⟩ := Tag.exists_of_read? read
    exact ⟨c, _, start, by simp⟩
  | case3 => simp at reported
  | case4 text c rest start other declares front behind closed ih =>
    obtain ⟨rfl, _⟩ := Text.splitFirst_eq_some_iff.mp closed
    exact ⟨c, _, start, by simp⟩
  | case5 text c rest start other declares closed ih =>
    -- The malformed markup is no tag, so the tag is one of those behind it.
    have behind : Step.tag tag ∈ steps rest := by simpa using reported
    exact ⟨c, rest, start, later (ih behind)⟩
  | case6 text c rest start other plain ih => exact ⟨c, rest, start, later (ih reported)⟩

/-- The closing bracket of a reported tag stands behind the first opening one. -/
theorem mem_of_tag_mem_steps {text rest : Text} {c : Char} {tag : Tag}
    (start : text.dropWhile (· ≠ '<') = c :: rest) (reported : Step.tag tag ∈ steps text) :
    '>' ∈ rest := by
  -- There is only one first bracket.
  obtain ⟨_, _, start', closes⟩ := exists_of_tag_mem_steps reported
  cases start.symm.trans start'
  exact closes

/-- Malformed markup is reported behind all tags. -/
theorem exists_steps_eq (text : Text) :
    ∃ n, steps text = (tags (steps text)).map Step.tag ++ List.replicate n .malformed := by
  fun_induction steps text with
  | case1 => exact ⟨0, rfl⟩
  | case2 text c rest start opens found behind read ih =>
    -- A tag stands in front of what is reported behind it.
    obtain ⟨n, same⟩ := ih
    exact ⟨n, congrArg (Step.tag found :: ·) same⟩
  | case3 => exact ⟨1, rfl⟩
  | case4 text c rest start other declares front behind closed ih => exact ih
  | case5 text c rest start other declares closed ih =>
    obtain ⟨n, same⟩ := ih
    -- Without a closing bracket no tag is reported any more.
    have none_left : tags (steps rest) = [] := by
      refine List.filterMap_eq_nil_iff.mpr fun step inside => ?_
      cases step with
      | tag found =>
        obtain ⟨_, _, begins, bracket⟩ := exists_of_tag_mem_steps inside
        have inside : '>' ∈ rest :=
          (List.dropWhile_sublist _).subset (begins ▸ List.mem_cons_of_mem _ bracket)
        exact absurd inside (Text.splitFirst_eq_none_iff.mp closed)
      | finish => rfl
      | malformed => rfl
    have none_at_all : tags (.malformed :: steps rest) = [] := none_left
    rw [none_left] at same
    exact ⟨n + 1, by rw [none_at_all, same]; rfl⟩
  | case6 text c rest start other plain ih => exact ih

/-- Whether a tag of a text with what follows it begins in the text and ends behind it; both are
stripped already. -/
def readsAcross (more text : Text) : Bool :=
  match _start : text.dropWhile (· ≠ '<') with
  | [] => false
  | _ :: rest =>
    if opensTag (rest ++ more) then
      match _read : Tag.read? rest with
      | some (_, behind) =>
        -- With more behind it the tag may end later than it does alone.
        (Tag.read? (rest ++ more)).any (fun read => read.2.length < more.length) ||
          readsAcross more behind
      | none => (Tag.read? (rest ++ more)).isSome
    else if isDeclaration rest then
      match _closed : Text.splitFirst '>' rest with
      | some (_, behind) => readsAcross more behind
      | none => false
    else readsAcross more rest
termination_by text.length
decreasing_by
  all_goals
    have skipped := Text.dropWhile_length_le (· ≠ '<') text
    rw [_start] at skipped
    simp at skipped
  · have := Tag.read?_length _read
    omega
  · have := Text.splitFirst_length _closed
    omega
  · omega

/-- Whether a declaration begins is told from what is in front of a bracket. -/
theorem isDeclaration_append {text : Text} (closes : '>' ∈ text) (more : Text) :
    isDeclaration (text ++ more) = isDeclaration text := by
  -- It is told from the first character alone.
  cases text with
  | nil => cases closes
  | cons c rest => rfl

/-- What a text reports up to a tag is reported of it with whatever follows, when no tag reaches
from the text into that. -/
theorem exists_steps_append {text more : Text} {front back : List Step} {tag : Tag}
    (apart : readsAcross more text = false) (reported : steps text = front ++ .tag tag :: back) :
    ∃ back', steps (text ++ more) = front ++ .tag tag :: back' := by
  have inside : Step.tag tag ∈ steps text := by simp [reported]
  -- By induction on the scan of the shorter text, whose steps the longer one repeats.
  fun_induction readsAcross more text generalizing front with
  | case1 text start => simp [steps_of_plain start] at inside
  | case2 text c rest start opens found behind read ih =>
    have closes := mem_of_tag_mem_steps start inside
    rw [opensTag_append closes] at opens
    obtain ⟨same, later⟩ := Bool.or_eq_false_iff.mp apart
    simp only [steps_of_start start, if_pos opens, read] at reported
    simp only [steps_of_start (Text.dropWhile_append_of_eq_cons start more),
      opensTag_append closes, if_pos opens, Tag.read?_append read same]
    -- The tag is the one that is read here, or one of those behind it.
    cases front with
    | nil =>
      cases reported
      exact ⟨_, rfl⟩
    | cons step front =>
      obtain ⟨rfl, behindIt⟩ := List.cons.inj reported
      obtain ⟨back', longer⟩ := ih later behindIt (by simp [behindIt])
      exact ⟨back', congrArg (Step.tag found :: ·) longer⟩
  | case3 text c rest start opens read =>
    have closes := mem_of_tag_mem_steps start inside
    rw [opensTag_append closes] at opens
    simp [steps_of_start start, opens, read] at inside
  | case4 text c rest start other declares before behind closed ih =>
    -- A declaration that closes in the text is passed over up to the same place.
    have closes := mem_of_tag_mem_steps start inside
    rw [opensTag_append closes] at other
    simp only [steps_of_start start, if_neg other, if_pos declares, closed] at reported
    simp only [steps_of_start (Text.dropWhile_append_of_eq_cons start more),
      opensTag_append closes, if_neg other, isDeclaration_append closes, if_pos declares,
      Text.splitFirst_append_of_eq_some closed more]
    exact ih apart reported (by simp [reported])
  | case5 text c rest start other declares closed =>
    have closes := mem_of_tag_mem_steps start inside
    -- A declaration that never closes is followed by no tag.
    exact absurd closes (Text.splitFirst_eq_none_iff.mp closed)
  | case6 text c rest start other plain ih =>
    have closes := mem_of_tag_mem_steps start inside
    rw [opensTag_append closes] at other
    simp only [steps_of_start start, if_neg other, if_neg plain] at reported
    simp only [steps_of_start (Text.dropWhile_append_of_eq_cons start more),
      opensTag_append closes, if_neg other, isDeclaration_append closes, if_neg plain]
    exact ih apart reported (by simp [reported])

end RelyingParty.Html
