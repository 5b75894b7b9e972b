import Mathlib.Data.List.TakeWhile
import RelyingParty.Html.Scanner
import RelyingParty.Proofs.Html.Match
import RelyingParty.Proofs.Html.Scan
import RelyingParty.Proofs.Text.Octet

/-! A scan goes from one place between two characters to a later one, and passes an opening bracket
with all that it reports. -/

namespace RelyingParty.Html

/-- The first step of a scan is the next one when it is reported. -/
theorem next_cons (names : List Text) (step : Step) (scan : List Step) :
    next names (step :: scan) =
      if step.isReported names then (step, scan) else next names scan := by
  -- The list of requests is looked through in the same way.
  by_cases reported : step.isReported names = true
  · simp [next, reported]
  · simp [next, reported]

/-- The answers to some requests in turn, by the steps of a scan. -/
def reports : List (List Text) → List Step → List Step
  | [], _ => []
  | names :: requests, scan =>
    (next names scan).1 :: reports requests (next names scan).2

namespace Scanner

section Slices

variable {scanner : Scanner} {left : Text}
  (taken : Text.fromOctet? scanner.position scanner.html = some left)
include taken

/-- Without an opening bracket the end is met. -/
theorem nextAny?_of_none (missing : Text.octetOf? '<' left = none) :
    scanner.nextAny? = some (.finish, scanner.moveTo (Text.octets scanner.html)) := by
  -- Nothing was found to stop at.
  rw [nextAny?]
  split
  · rename_i failed
    cases failed.symm.trans taken
  · rename_i found
    cases found.symm.trans taken
    split
    · rfl
    · rename_i found
      cases found.symm.trans missing

/-- Behind an opening bracket a tag is met, a declaration is passed over, and all else is looked
through for the next bracket. -/
theorem nextAny?_of_start {offset : Nat} {c : Char} {rest : Text}
    (found : Text.octetOf? '<' left = some offset)
    (opened : Text.fromOctet? (scanner.position + offset) scanner.html = some (c :: rest)) :
    scanner.nextAny? =
      if opensTag rest then
        match tagMatch? (c :: rest) with
        | none => some (.malformed, scanner.moveTo (Text.octets scanner.html))
        | some groups =>
          (groups.text? 0).bind fun whole =>
            (buildTag? groups).map fun tag =>
              (.tag tag, scanner.moveTo (scanner.position + offset + Text.octets whole))
      else if isDeclaration rest then
        match Text.octetOf? '>' (c :: rest) with
        | some close => (scanner.moveTo (scanner.position + offset + close + 1)).nextAny?
        | none => some (.malformed, scanner.moveTo (scanner.position + offset + 1))
      else (scanner.moveTo (scanner.position + offset + 1)).nextAny? := by
  -- The position of the bracket is known, so only what stands behind it is asked.
  rw [nextAny?.eq_def scanner]
  split
  · rename_i failed
    cases failed.symm.trans taken
  · rename_i same
    cases same.symm.trans taken
    split
    · rename_i missing
      cases missing.symm.trans found
    · rename_i same
      cases same.symm.trans found
      simp only [opened]
      rfl

end Slices

/-- The scan of what is left of a text behind its front. -/
def behind (front left : Text) : Scanner := ⟨front ++ left, Text.octets front⟩

/-- To move on by the octets of what is passed is to be behind it. -/
theorem behind_moveTo {front left passed kept : Text} (whole : left = passed ++ kept) {n : Nat}
    (moved : n = Text.octets front + Text.octets passed) :
    (behind front left).moveTo n = behind (front ++ passed) kept := by
  simp [behind, moveTo, whole, moved]

/-- To move to the end is to be behind all that was left. -/
theorem behind_moveTo_end (front left : Text) :
    (behind front left).moveTo (Text.octets (front ++ left)) = behind (front ++ left) [] :=
  behind_moveTo (List.append_nil left).symm (Text.octets_append front left)

/-- What is met behind the first opening bracket. -/
theorem nextAny?_behind (front : Text) {before : Text} (absent : '<' ∉ before) (rest : Text) :
    (behind front (before ++ '<' :: rest)).nextAny? =
      if opensTag rest then
        match tagMatch? ('<' :: rest) with
        | none => some (.malformed, behind (front ++ (before ++ '<' :: rest)) [])
        | some groups =>
          (groups.text? 0).bind fun whole =>
            (buildTag? groups).map fun tag =>
              (.tag tag, (behind front (before ++ '<' :: rest)).moveTo
                (Text.octets front + Text.octets before + Text.octets whole))
      else if isDeclaration rest then
        match Text.octetOf? '>' ('<' :: rest) with
        | some close =>
          ((behind front (before ++ '<' :: rest)).moveTo
            (Text.octets front + Text.octets before + close + 1)).nextAny?
        | none => some (.malformed, behind (front ++ (before ++ ['<'])) rest)
      else (behind (front ++ (before ++ ['<'])) rest).nextAny? := by
  -- Octets are counted up to the bracket, which is one octet itself.
  have opened : Text.fromOctet? (Text.octets front + Text.octets before)
      (front ++ (before ++ '<' :: rest)) = some ('<' :: rest) := by
    rw [← Text.octets_append, ← List.append_assoc]
    exact Text.fromOctet?_append _ _
  have passed : (behind front (before ++ '<' :: rest)).moveTo
      (Text.octets front + Text.octets before + 1) = behind (front ++ (before ++ ['<'])) rest :=
    behind_moveTo (by simp) (by simp [Nat.add_assoc, (by decide : '<'.utf8Size = 1)])
  rw [← passed, ← behind_moveTo_end]
  exact nextAny?_of_start (Text.fromOctet?_append front _) (Text.octetOf?_append absent rest) opened

section Bracket

variable (front : Text) {before : Text} (absent : '<' ∉ before)
include absent

/-- A tag is met, and the scan goes on behind it. -/
theorem exists_nextAny?_of_read {rest later : Text} {tag : Tag} (opens : opensTag rest = true)
    (read : Tag.read? rest = some (tag, later)) :
    ∃ matched, rest = matched ++ later ∧
      (behind front (before ++ '<' :: rest)).nextAny? =
        some (.tag tag, behind (front ++ (before ++ '<' :: matched)) later) := by
  -- The whole match is what the scan moves over.
  obtain ⟨groups, matched, found, first, rfl, built⟩ := exists_tagMatch? read
  have whole : before ++ '<' :: (matched ++ later) = (before ++ '<' :: matched) ++ later := by simp
  refine ⟨matched, rfl, ?_⟩
  rw [nextAny?_behind front absent, if_pos opens, found]
  simp only [first, built, Option.bind_some, Option.map_some]
  rw [behind_moveTo whole (by simp [Nat.add_assoc])]

/-- A declaration is passed over up to its closing bracket. -/
theorem nextAny?_of_closed {inner : Text} (unclosed : '>' ∉ inner) (later : Text)
    (other : ¬opensTag (inner ++ '>' :: later) = true)
    (declares : isDeclaration (inner ++ '>' :: later) = true) :
    (behind front (before ++ '<' :: (inner ++ '>' :: later))).nextAny? =
      (behind (front ++ (before ++ '<' :: (inner ++ ['>']))) later).nextAny? := by
  -- The closing bracket is the first one, and the scan moves behind it.
  have whole : before ++ '<' :: (inner ++ '>' :: later) =
      (before ++ '<' :: (inner ++ ['>'])) ++ later := by simp
  have found : Text.octetOf? '>' ('<' :: (inner ++ '>' :: later)) =
      some (Text.octets ('<' :: inner)) :=
    Text.octetOf?_append (List.not_mem_cons_of_ne_of_not_mem (by decide) unclosed) later
  have moved : Text.octets front + Text.octets before + Text.octets ('<' :: inner) + 1 =
      Text.octets front + Text.octets (before ++ '<' :: (inner ++ ['>'])) := by
    simp [Nat.add_assoc, (by decide : '>'.utf8Size = 1)]
  rw [nextAny?_behind front absent, if_neg other, if_pos declares, found]
  simp only
  rw [behind_moveTo whole moved]

end Bracket

/-- Where the scan of a text goes: behind an opening bracket for what it meets, or to the end. -/
structure Meets (left : Text) (step : Step) (passed kept : Text) : Prop where
  whole : left = passed ++ kept
  ends : step = .finish → steps left = [] ∧ kept = []
  goes_on : step ≠ .finish → steps left = step :: steps kept ∧ '<' ∈ passed

/-- A scan that meets something other than the end is behind an opening bracket. -/
theorem Meets.of_steps {left passed kept : Text} {step : Step} (whole : left = passed ++ kept)
    (other : step ≠ .finish) (reported : steps left = step :: steps kept) (bracket : '<' ∈ passed) :
    Meets left step passed kept :=
  ⟨whole, fun finish => absurd finish other, fun _ => ⟨reported, bracket⟩⟩

/-- What is met behind a text that is passed over is met in front of it. -/
theorem Meets.append {front left passed kept : Text} {step : Step}
    (met : Meets left step passed kept) (same : steps (front ++ left) = steps left) :
    Meets (front ++ left) step (front ++ passed) kept where
  whole := by rw [met.whole, List.append_assoc]
  -- The steps are those of what is left, since none is met in front.
  ends := fun finish => same ▸ met.ends finish
  goes_on := fun other =>
    ⟨same ▸ (met.goes_on other).1, List.mem_append_right _ (met.goes_on other).2⟩

/-- What is dropped in front of the first bracket has none. -/
theorem exists_of_start {text rest : Text} {c : Char}
    (start : text.dropWhile (· ≠ '<') = c :: rest) :
    ∃ before, c = '<' ∧ text = before ++ '<' :: rest ∧ '<' ∉ before := by
  -- The first character that is kept is the bracket.
  have bracket : ¬decide (c ≠ '<') = true := by
    have first := List.head?_dropWhile_not (fun c => decide (c ≠ '<')) text
    rw [start] at first
    simpa using first
  obtain rfl : c = '<' := by simpa using bracket
  refine ⟨text.takeWhile (· ≠ '<'), rfl, ?_, fun inside => ?_⟩
  · rw [← start, List.takeWhile_append_dropWhile]
  · simpa using List.all_eq_true.mp List.all_takeWhile _ inside

/-- A scan between two characters meets what is left to be met, and is between two characters
again. -/
theorem exists_nextAny? (front left : Text) :
    ∃ step passed kept, Meets left step passed kept ∧
      (behind front left).nextAny? = some (step, behind (front ++ passed) kept) := by
  -- The induction is on the list of all that is met, which the scan follows.
  fun_induction steps left generalizing front with
  | case1 left start =>
    -- Without an opening bracket the scan moves to the end.
    have absent : '<' ∉ left := fun inside => by
      simpa using List.dropWhile_eq_nil_iff.mp start _ inside
    refine ⟨.finish, left, [], ⟨(List.append_nil left).symm, fun _ => ⟨steps_of_plain start, rfl⟩,
      absurd rfl⟩, ?_⟩
    rw [nextAny?_of_none (Text.fromOctet?_append front left) (Text.octetOf?_of_notMem absent),
      ← behind_moveTo_end]
    rfl
  | case2 left c rest start opens tag later read _ =>
    obtain ⟨before, rfl, rfl, absent⟩ := exists_of_start start
    have reported := steps_of_start start
    simp only [if_pos opens, read] at reported
    obtain ⟨matched, rfl, found⟩ := exists_nextAny?_of_read front absent opens read
    exact ⟨.tag tag, before ++ '<' :: matched, later,
      .of_steps (by simp) (by simp) reported (by simp), found⟩
  | case3 left c rest start opens read =>
    obtain ⟨before, rfl, rfl, absent⟩ := exists_of_start start
    -- A tag that cannot be read ends the scan, and nothing is left to be met.
    have exhausted : steps [] = [] := steps_of_plain rfl
    have reported : steps (before ++ '<' :: rest) = .malformed :: steps [] := by
      rw [steps_of_start start, if_pos opens, read, exhausted]
    refine ⟨.malformed, before ++ '<' :: rest, [],
      .of_steps (List.append_nil _).symm (by simp) reported (by simp), ?_⟩
    rw [nextAny?_behind front absent, if_pos opens, tagMatch?_eq_none_iff.mpr read]
  | case4 left c rest start other declares inner later closed ih =>
    obtain ⟨before, rfl, rfl, absent⟩ := exists_of_start start
    obtain ⟨rfl, unclosed⟩ := Text.splitFirst_eq_some_iff.mp closed
    -- A declaration is passed over up to its closing bracket, from where the scan goes on.
    have whole : before ++ '<' :: (inner ++ '>' :: later) =
        (before ++ '<' :: (inner ++ ['>'])) ++ later := by simp
    have passed_over : steps ((before ++ '<' :: (inner ++ ['>'])) ++ later) = steps later := by
      rw [← whole, steps_of_start start, if_neg other, if_pos declares, closed]
    obtain ⟨step, passed, kept, met, found⟩ := ih (front ++ (before ++ '<' :: (inner ++ ['>'])))
    refine ⟨step, (before ++ '<' :: (inner ++ ['>'])) ++ passed, kept,
      whole ▸ met.append passed_over, ?_⟩
    rw [nextAny?_of_closed front absent unclosed later other declares, found, List.append_assoc]
  | case5 left c rest start other declares closed _ =>
    obtain ⟨before, rfl, rfl, absent⟩ := exists_of_start start
    have reported := steps_of_start start
    simp only [if_neg other, if_pos declares, closed] at reported
    -- One that does not close is malformed, and the scan goes on behind its bracket.
    have missing : Text.octetOf? '>' ('<' :: rest) = none :=
      Text.octetOf?_of_notMem (List.not_mem_cons_of_ne_of_not_mem (by decide)
        (Text.splitFirst_eq_none_iff.mp closed))
    refine ⟨.malformed, before ++ ['<'], rest, .of_steps (by simp) (by simp) reported (by simp), ?_⟩
    rw [nextAny?_behind front absent, if_neg other, if_pos declares, missing]
  | case6 left c rest start other plain ih =>
    obtain ⟨before, rfl, rfl, absent⟩ := exists_of_start start
    -- A bracket that begins no markup is passed over alone.
    have whole : before ++ '<' :: rest = (before ++ ['<']) ++ rest := by simp
    have passed_over : steps ((before ++ ['<']) ++ rest) = steps rest := by
      rw [← whole, steps_of_start start, if_neg other, if_neg plain]
    obtain ⟨step, passed, kept, met, found⟩ := ih (front ++ (before ++ ['<']))
    refine ⟨step, (before ++ ['<']) ++ passed, kept, whole ▸ met.append passed_over, ?_⟩
    rw [nextAny?_behind front absent, if_neg other, if_neg plain, found, List.append_assoc]

/-- What is met is answered when it is reported, and else what is behind it. -/
theorem next?_of_nextAny? {scanner later : Scanner} {step : Step}
    (met : scanner.nextAny? = some (step, later)) (names : List Text) :
    scanner.next? names =
      if step.isReported names then some (step, later) else later.next? names := by
  -- The scan repeats itself from where it stands.
  rw [next?.eq_def names scanner]
  split
  · rename_i failed
    cases failed.symm.trans met
  · rename_i found
    cases found.symm.trans met
    rfl

/-- A request is answered from what is left to be met: behind an opening bracket, or at the end. -/
theorem exists_next? (names : List Text) (front left : Text) :
    ∃ step passed kept, left = passed ++ kept ∧
      (behind front left).next? names = some (step, behind (front ++ passed) kept) ∧
      next names (steps left) = (step, steps kept) ∧
      (step = .finish → kept = []) ∧ (step ≠ .finish → '<' ∈ passed) := by
  -- By strong induction on what is left, since what is not reported is passed over.
  induction length : left.length using Nat.strongRecOn generalizing front left with
  | ind n ih =>
    obtain ⟨step, passed, kept, met, found⟩ := exists_nextAny? front left
    rw [next?_of_nextAny? found]
    by_cases reported : step.isReported names = true
    · refine ⟨step, passed, kept, met.whole, if_pos reported, ?_, fun finish => (met.ends finish).2,
        fun other => (met.goes_on other).2⟩
      -- A step that is reported is the answer, and at the end the list is exhausted as well.
      by_cases finish : step = .finish
      · obtain ⟨exhausted, rfl⟩ := met.ends finish
        rw [exhausted, steps_of_plain rfl, finish]
        rfl
      · rw [(met.goes_on finish).1, next_cons, if_pos reported]
    · -- Any other step is passed over with its bracket, so that less is left.
      have other : step ≠ .finish := by
        rintro rfl
        exact reported rfl
      obtain ⟨same, bracket⟩ := met.goes_on other
      have shorter : kept.length < n := by
        have := List.length_pos_of_mem bracket
        rw [← length, met.whole, List.length_append]
        omega
      obtain ⟨answer, more, last, whole, answered, agrees, ends, goes_on⟩ :=
        ih kept.length shorter (front ++ passed) kept rfl
      refine ⟨answer, passed ++ more, last, ?_, ?_, ?_, ends, fun behind => ?_⟩
      · rw [met.whole, whole, List.append_assoc]
      · rw [if_neg reported, answered, List.append_assoc]
      · rw [same, next_cons, if_neg reported, agrees]
      · exact List.mem_append_left _ bracket

/-- Requests in turn are answered, and each passes an opening bracket while there are any. -/
theorem exists_answers? (requests : List (List Text)) (front left : Text) :
    ∃ passed kept, left = passed ++ kept ∧
      (behind front left).answers? requests =
        some (reports requests (steps left), behind (front ++ passed) kept) ∧
      kept.count '<' ≤ left.count '<' - requests.length := by
  -- By induction on the requests, each of which moves on.
  induction requests generalizing front left with
  | nil => exact ⟨[], left, rfl, by simp [answers?, reports], by simp⟩
  | cons names requests ih =>
    obtain ⟨step, passed, kept, rfl, answered, agrees, ends, goes_on⟩ :=
      exists_next? names front left
    obtain ⟨more, last, rfl, later, fewer⟩ := ih (front ++ passed) kept
    refine ⟨passed ++ more, last, (List.append_assoc ..).symm, ?_, ?_⟩
    · simp [answers?, answered, later, reports, agrees]
    · by_cases finish : step = .finish
      · obtain ⟨_, rfl⟩ := List.append_eq_nil_iff.mp (ends finish)
        exact Nat.zero_le _
      · have one_more := List.count_pos_iff.mpr (goes_on finish)
        rw [List.count_append, List.length_cons]
        omega

/-- Whatever is requested of the scan of a page, it is answered as the list of all that is met says,
and no slice or group is missing. The scan is then between two characters, at the end at the latest.
The next request is answered too: what it reports is met further on, unless that is the end, and it
is the end when there were as many requests as the page has opening brackets. -/
theorem answers?_ofPage (page : Text) (requests : List (List Text)) :
    ∃ scanner, (ofPage page).answers? requests = some (reports requests (scan page), scanner) ∧
      scanner.html = strip page ∧
      scanner.position ≤ Text.octets (strip page) ∧
      (∃ front back, strip page = front ++ back ∧ scanner.position = Text.octets front) ∧
      ∀ names, ∃ step later, scanner.next? names = some (step, later) ∧
        (step ≠ .finish → scanner.position < later.position) ∧
        ((strip page).count '<' ≤ requests.length → step = .finish) := by
  -- The scan starts in front of the page, so what it has passed is a front of it.
  obtain ⟨passed, kept, whole, answered, few⟩ := exists_answers? requests [] (strip page)
  have start : behind [] (strip page) = ofPage page := rfl
  rw [start] at answered
  refine ⟨_, answered, ?_, ?_, ⟨passed, kept, whole, rfl⟩, fun names => ?_⟩
  · exact whole.symm
  · rw [whole, Text.octets_append]
    exact Nat.le_add_right _ _
  · obtain ⟨step, more, last, rest, found, _, _, goes_on⟩ := exists_next? names passed kept
    refine ⟨step, _, found, fun other => ?_, fun enough => not_not.mp fun other => ?_⟩
    · have some_octets := Text.octets_pos (List.ne_nil_of_mem (goes_on other))
      change Text.octets passed < Text.octets (passed ++ more)
      rw [Text.octets_append]
      omega
    · -- Each request has passed a bracket, so none is left for this one.
      have one_more := List.count_pos_iff.mpr (goes_on other)
      rw [rest, List.count_append] at few
      omega

end Scanner

end RelyingParty.Html
