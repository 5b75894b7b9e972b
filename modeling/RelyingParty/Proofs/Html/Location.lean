import Mathlib.Data.List.Induction
import RelyingParty.Proofs.Html.HeadScope

/-! The search for the location finds the first tag in the head that names one, and leaves all that
is behind it. What stands in a script of the head does not count, but an end of the scan does. -/

namespace RelyingParty.Html

/-- Whether a tag has a name and does not close itself. -/
def Tag.Opens (name : Text) (tag : Tag) : Prop := tag.name = name ∧ tag.selfClosing = false

/-- Whether a tag is a `meta` tag that names a location. -/
def Tag.NamesLocation (tag : Tag) (location : Text) : Prop :=
  tag.name = "meta" ∧ ∃ name content, Table.get? "http-equiv" tag.attributes = some name ∧
    (Text.asciiLower name = "x-xrds-location" ∨ Text.asciiLower name = "x-yadis-location") ∧
    Table.get? "content" tag.attributes = some content ∧ unescape content = location

/-- Whether the head is opened among some tags. -/
def HeadOpened (front : List Tag) : Prop := ∃ tag ∈ front, tag.Opens "head"

/-- Whether some tags leave a script of the head open: it is opened behind the head, and nothing
closes it. -/
def ScriptOpen (front : List Tag) : Prop :=
  ∃ (before inside : List Tag) (tag : Tag), front = before ++ tag :: inside ∧ HeadOpened before ∧
    tag.Opens "script" ∧ ∀ other ∈ inside, other.name ≠ "/script"

/-- Whether a tag behind some others ends the search for the location: as an end of the head, or as
a page inside the head. -/
def EndsSearch (front : List Tag) (tag : Tag) : Prop :=
  tag.name = "/head" ∨ tag.name = "body" ∨ tag.name = "/body" ∨
    HeadOpened front ∧ tag.name = "html"

/-- Whether a tag behind some others names the location: it stands in the head and not in a script,
and outside scripts nothing in front of it ends the search. -/
structure Locates (front : List Tag) (tag : Tag) (location : Text) : Prop where
  names : tag.NamesLocation location
  opened : HeadOpened front
  outside : ¬ScriptOpen front
  -- A tag in a script ends nothing, as it is passed over.
  unended : ∀ before found behind, front = before ++ found :: behind → ¬ScriptOpen before →
    ¬EndsSearch before found

/-- What the search takes for the location of a tag is what the tag names. -/
theorem metaLocation?_eq_some_iff {tag : Tag} {location : Text} :
    metaLocation? tag = some location ↔ tag.NamesLocation location := by
  -- The name of the tag, the header it stands for and its content are asked one after the other.
  unfold metaLocation? Tag.NamesLocation
  split
  · rename_i named
    cases equiv : Table.get? "http-equiv" tag.attributes with
    | none => simp only [reduceCtorEq, false_and, exists_const, and_false]
    | some name =>
      dsimp only
      split
      · rename_i wanted
        rw [Option.map_eq_some_iff]
        constructor
        · rintro ⟨content, written, read⟩
          exact ⟨named, name, content, rfl, wanted, written, read⟩
        · rintro ⟨_, _, content, ⟨⟩, _, written, read⟩
          exact ⟨content, written, read⟩
      · -- A tag that stands for another header names nothing, whatever its content.
        rename_i unwanted
        refine iff_of_false nofun ?_
        rintro ⟨_, _, _, ⟨⟩, wanted, _⟩
        exact unwanted wanted
  · rename_i unnamed
    exact iff_of_false nofun fun names => unnamed names.1

/-- One more tag opens the head, or leaves it as it is. -/
theorem headOpened_snoc {front : List Tag} {tag : Tag} :
    HeadOpened (front ++ [tag]) ↔ HeadOpened front ∨ tag.Opens "head" := by
  -- The tag that opens the head is among the first ones, or it is the last.
  simp only [HeadOpened, List.mem_append, List.mem_singleton, or_and_right, exists_or,
    exists_eq_left]

/-- A script of the head stands behind the tag that opens the head. -/
theorem ScriptOpen.headOpened {front : List Tag} (script : ScriptOpen front) :
    HeadOpened front := by
  -- The head has been opened in front of the script.
  obtain ⟨before, inside, tag, rfl, ⟨head, member, opens⟩, _⟩ := script
  exact ⟨head, List.mem_append_left _ member, opens⟩

/-- One more tag keeps a script open unless it closes it, or opens one in the head. -/
theorem scriptOpen_snoc {front : List Tag} {tag : Tag} :
    ScriptOpen (front ++ [tag]) ↔
      ScriptOpen front ∧ tag.name ≠ "/script" ∨ HeadOpened front ∧ tag.Opens "script" := by
  constructor
  · rintro ⟨before, inside, script, whole, opened, opens, unclosed⟩
    -- The script is opened by the last tag, or stands in front of it.
    rcases List.eq_nil_or_concat inside with rfl | ⟨inside, last, rfl⟩
    · obtain ⟨rfl, same⟩ := List.append_inj' whole rfl
      obtain rfl := List.singleton_inj.mp same
      exact .inr ⟨opened, opens⟩
    · rw [List.concat_eq_append, ← List.cons_append, ← List.append_assoc] at whole
      obtain ⟨rfl, same⟩ := List.append_inj' whole rfl
      obtain rfl := List.singleton_inj.mp same
      refine .inl ⟨⟨before, inside, script, rfl, opened, opens, fun other member => ?_⟩, ?_⟩
      · exact unclosed other (by simp [member])
      · exact unclosed tag (by simp)
  · rintro (⟨⟨before, inside, script, rfl, opened, opens, unclosed⟩, closes⟩ | ⟨opened, opens⟩)
    · -- The script stays open behind a tag that does not close it.
      refine ⟨before, inside ++ [tag], script, by simp, opened, opens, fun other member => ?_⟩
      rcases List.mem_append.mp member with earlier | last
      · exact unclosed other earlier
      · rwa [List.mem_singleton.mp last]
    · exact ⟨front, [], tag, rfl, opened, opens, nofun⟩

/-- What the phase behind some tags says of them. -/
def LocationPhase.Describes (front : List Tag) : LocationPhase → Prop
  | beforeHead => ¬HeadOpened front
  | inHead => HeadOpened front ∧ ¬ScriptOpen front
  | inScript => ScriptOpen front

/-- The phase behind one more tag says the right thing of it. -/
theorem LocationPhase.Describes.advance {phase : LocationPhase} {front : List Tag}
    (describes : phase.Describes front) (tag : Tag) :
    (phase.advance tag).Describes (front ++ [tag]) := by
  cases phase with
  | beforeHead =>
    have unopened : ¬HeadOpened front := describes
    by_cases opens : tag.name = "head" ∧ (!tag.selfClosing) = true
    · -- The tag that opens the head is no script.
      rw [LocationPhase.advance, if_pos opens]
      refine ⟨headOpened_snoc.mpr (.inr ⟨opens.1, by simpa using opens.2⟩), fun script => ?_⟩
      rcases scriptOpen_snoc.mp script with ⟨earlier, _⟩ | ⟨opened, _⟩
      · exact unopened earlier.headOpened
      · exact unopened opened
    · rw [LocationPhase.advance, if_neg opens]
      rintro opened
      rcases headOpened_snoc.mp opened with earlier | last
      · exact unopened earlier
      · exact opens ⟨last.1, by simpa using last.2⟩
  | inHead =>
    obtain ⟨opened, outside⟩ := describes
    -- In the head only a script changes the phase, and the head stays opened.
    by_cases opens : tag.name = "script" ∧ (!tag.selfClosing) = true
    · rw [LocationPhase.advance, if_pos opens]
      exact scriptOpen_snoc.mpr (.inr ⟨opened, opens.1, by simpa using opens.2⟩)
    · rw [LocationPhase.advance, if_neg opens]
      refine ⟨headOpened_snoc.mpr (.inl opened), fun script => ?_⟩
      rcases scriptOpen_snoc.mp script with ⟨earlier, _⟩ | ⟨_, last⟩
      · exact outside earlier
      · exact opens ⟨last.1, by simpa using last.2⟩
  | inScript =>
    have script : ScriptOpen front := describes
    -- Within a script every tag is passed over but the one that closes it.
    by_cases closes : tag.name = "/script"
    · rw [LocationPhase.advance, if_pos closes]
      refine ⟨headOpened_snoc.mpr (.inl script.headOpened), fun still => ?_⟩
      rcases scriptOpen_snoc.mp still with ⟨_, other⟩ | ⟨_, last⟩
      · exact other closes
      · exact absurd (closes.symm.trans last.1) (by decide)
    · rw [LocationPhase.advance, if_neg closes]
      exact scriptOpen_snoc.mpr (.inl ⟨script, closes⟩)

/-- The phase behind some tags of which none ends the search. -/
def phaseBehind (front : List Tag) : LocationPhase :=
  front.foldl LocationPhase.advance .beforeHead

/-- The phase behind some tags says the right thing of them. -/
theorem describes_phaseBehind (front : List Tag) : (phaseBehind front).Describes front := by
  -- The phase is known tag by tag, so the induction takes the last tag away.
  induction front using List.reverseRecOn with
  | nil => exact fun opened => by obtain ⟨_, ⟨⟩, _⟩ := opened
  | append_singleton front tag ih =>
    rw [phaseBehind, List.foldl_append]
    exact ih.advance tag

/-- The phase is in the head where the head is opened, but not in a script. -/
theorem phaseBehind_eq_inHead_iff {front : List Tag} :
    phaseBehind front = .inHead ↔ HeadOpened front ∧ ¬ScriptOpen front := by
  -- What each phase says of the tags excludes the other two.
  have describes := describes_phaseBehind front
  cases phase : phaseBehind front with
  | beforeHead =>
    rw [phase] at describes
    exact iff_of_false nofun fun inside => describes inside.1
  | inHead =>
    rw [phase] at describes
    exact iff_of_true rfl describes
  | inScript =>
    rw [phase] at describes
    exact iff_of_false nofun fun inside => inside.2 describes

/-- Whether the search stops at a tag in some phase: it ends there, or finds a location. -/
def LocationPhase.Stops (phase : LocationPhase) (tag : Tag) : Prop :=
  phase.endsAt tag = true ∨ phase = inHead ∧ (metaLocation? tag).isSome = true

/-- Behind some tags the search stops at what ends it and at what names a location in the head, but
not in a script. -/
theorem stops_phaseBehind_iff {front : List Tag} {tag : Tag} :
    (phaseBehind front).Stops tag ↔ ¬ScriptOpen front ∧
      (EndsSearch front tag ∨ HeadOpened front ∧ ∃ location, tag.NamesLocation location) := by
  -- In each phase the right side comes down to what the phase looks for.
  have describes := describes_phaseBehind front
  have named : (metaLocation? tag).isSome = true ↔ ∃ location, tag.NamesLocation location := by
    simp only [Option.isSome_iff_exists, metaLocation?_eq_some_iff]
  unfold LocationPhase.Stops EndsSearch
  rw [named]
  cases phase : phaseBehind front with
  | beforeHead =>
    rw [phase] at describes
    have unopened : ¬HeadOpened front := describes
    have outside : ¬ScriptOpen front := fun script => unopened script.headOpened
    simp only [LocationPhase.endsAt, Bool.or_eq_true, decide_eq_true_eq, reduceCtorEq, false_and,
      or_false, unopened, outside, not_false_eq_true, true_and, or_assoc]
  | inHead =>
    rw [phase] at describes
    simp only [LocationPhase.endsAt, Bool.or_eq_true, decide_eq_true_eq, true_and, describes.1,
      describes.2, not_false_eq_true, or_assoc]
  -- In a script nothing stops the search.
  | inScript =>
    rw [phase] at describes
    have script : ScriptOpen front := describes
    simp only [LocationPhase.endsAt, Bool.false_eq_true, reduceCtorEq, false_and, or_false, script,
      not_true_eq_false]

/-- The search goes on behind some tags when it stops at none of them. -/
theorem behind?_eq_some_iff {phase last : LocationPhase} {front : List Tag} :
    phase.behind? front = some last ↔ front.foldl LocationPhase.advance phase = last ∧
      ∀ before found behind, front = before ++ found :: behind →
        ¬(before.foldl LocationPhase.advance phase).Stops found := by
  induction front generalizing phase with
  | nil => simp [LocationPhase.behind?]
  | cons tag rest ih =>
    rw [LocationPhase.behind?, List.foldl_cons]
    split
    · -- The first tag stops the search already.
      rename_i stops
      exact iff_of_false (by simp) fun goesOn => goesOn.2 [] tag rest rfl stops
    · rename_i passes
      rw [ih]
      refine and_congr_right fun _ => ?_
      -- The tags in front of a later one are the first tag and those in front of it in the rest.
      constructor
      · rintro later before found behind whole
        cases before with
        | nil =>
          cases whole
          exact passes
        | cons first before =>
          cases whole
          exact later before found behind rfl
      · rintro all before found behind rfl
        exact all (tag :: before) found behind rfl

/-- A tag at which the search does not stop moves it on. -/
theorem locateFrom_of_passes {phase : LocationPhase} {tag : Tag} (passes : ¬phase.Stops tag)
    (rest : List Step) :
    locateFrom phase (.tag tag :: rest) = locateFrom (phase.advance tag) rest := by
  -- Such a tag neither ends the search nor names a location where one would count.
  have goesOn : ¬phase.endsAt tag = true := fun ends => passes (.inl ends)
  have unnamed : (if phase = .inHead then metaLocation? tag else none) = none := by
    split
    · rename_i inside
      cases named : metaLocation? tag with
      | none => rfl
      | some location => exact absurd (.inr ⟨inside, by rw [named]; rfl⟩) passes
    · rfl
  rw [locateFrom, if_neg goesOn, unnamed]

/-- A tag of the head that names a location is found, and what is behind it is left. -/
theorem locateFrom_of_names {tag : Tag} {location : Text}
    (names : metaLocation? tag = some location) (rest : List Step) :
    locateFrom .inHead (.tag tag :: rest) = ⟨some location, false, rest⟩ := by
  -- A meta tag ends no search, so its location is looked at.
  have named : tag.name = "meta" := (metaLocation?_eq_some_iff.mp names).1
  have goesOn : LocationPhase.endsAt .inHead tag = false := by
    simp only [LocationPhase.endsAt, named]
    decide
  rw [locateFrom, goesOn, if_neg Bool.false_ne_true, if_pos rfl, names]

/-- Behind some tags at which it does not stop, the search goes on in the phase behind them. -/
theorem locateFrom_of_behind? {phase last : LocationPhase} {front : List Tag}
    (goesOn : phase.behind? front = some last) (rest : List Step) :
    locateFrom phase (front.map Step.tag ++ rest) = locateFrom last rest := by
  -- By induction on the tags, each of which moves the search on.
  induction front generalizing phase with
  | nil =>
    cases goesOn
    rfl
  | cons tag front ih =>
    rw [LocationPhase.behind?] at goesOn
    split at goesOn
    · cases goesOn
    · rename_i passes
      rw [List.map_cons, List.cons_append, locateFrom_of_passes passes]
      exact ih goesOn

/-- A location that the search finds is that of a tag at which it arrives in the head. -/
theorem exists_of_locateFrom {phase : LocationPhase} {scan left : List Step} {location : Text}
    {malformed : Bool} (found : locateFrom phase scan = ⟨some location, malformed, left⟩) :
    malformed = false ∧ ∃ front tag, scan = front.map Step.tag ++ .tag tag :: left ∧
      phase.behind? front = some .inHead ∧ metaLocation? tag = some location := by
  -- By induction on the steps: one that stops the search, or one that it passes.
  induction scan generalizing phase with
  | nil => cases found
  | cons step rest ih =>
    cases step with
    | finish => cases found
    | malformed => cases found
    | tag first =>
      by_cases stops : phase.Stops first
      · rcases stops with ends | ⟨rfl, names⟩
        · rw [locateFrom, if_pos ends] at found
          cases found
        · obtain ⟨other, names⟩ := Option.isSome_iff_exists.mp names
          rw [locateFrom_of_names names] at found
          cases found
          exact ⟨rfl, [], first, rfl, rfl, names⟩
      · -- The tag is passed, so it stands in front of the one that is found.
        rw [locateFrom_of_passes stops] at found
        obtain ⟨sound, front, tag, rfl, goesOn, names⟩ := ih found
        refine ⟨sound, first :: front, tag, rfl, ?_, names⟩
        rw [LocationPhase.behind?]
        exact (if_neg stops).trans goesOn

/-- The search finds the location of the tag at which it arrives in the head. -/
theorem locateFrom_eq_some_iff {phase : LocationPhase} {scan left : List Step} {location : Text}
    {malformed : Bool} :
    locateFrom phase scan = ⟨some location, malformed, left⟩ ↔ malformed = false ∧
      ∃ front tag, scan = front.map Step.tag ++ .tag tag :: left ∧
        phase.behind? front = some .inHead ∧ metaLocation? tag = some location := by
  -- The tags in front are passed over, and the next one names it.
  constructor
  · exact exists_of_locateFrom
  · rintro ⟨rfl, front, tag, rfl, goesOn, names⟩
    rw [locateFrom_of_behind? goesOn, locateFrom_of_names names]

/-- The search for the location finds one exactly when the scan has a tag that names it in the head
and not in a script, with only tags in front of it, of which none outside scripts ends the search.
The first such tag is what it finds, no malformed markup stops it, and all that is behind the tag is
left. -/
theorem locate_eq_some_iff (scan : List Step) (location : Text) (malformed : Bool)
    (left : List Step) :
    locate scan = ⟨some location, malformed, left⟩ ↔ malformed = false ∧
      ∃ front tag, scan = front.map Step.tag ++ .tag tag :: left ∧ Locates front tag location ∧
        ∀ before found behind other, front = before ++ found :: behind →
          ¬Locates before found other := by
  rw [locate, locateFrom_eq_some_iff]
  refine and_congr_right fun _ => exists_congr fun front => exists_congr fun tag =>
    and_congr_right fun _ => ?_
  -- No tag in front stops the search, which is to say that none locates anything.
  rw [behind?_eq_some_iff, metaLocation?_eq_some_iff]
  constructor
  · rintro ⟨⟨arrives, passes⟩, names⟩
    obtain ⟨opened, outside⟩ := phaseBehind_eq_inHead_iff.mp arrives
    refine ⟨⟨names, opened, outside, fun before found behind whole visible ends => ?_⟩, ?_⟩
    · exact passes before found behind whole (stops_phaseBehind_iff.mpr ⟨visible, .inl ends⟩)
    · intro before found behind other whole locates
      exact passes before found behind whole (stops_phaseBehind_iff.mpr
        ⟨locates.outside, .inr ⟨locates.opened, other, locates.names⟩⟩)
  · rintro ⟨locates, first⟩
    refine ⟨⟨phaseBehind_eq_inHead_iff.mpr ⟨locates.opened, locates.outside⟩, ?_⟩, locates.names⟩
    intro before found behind whole stops
    obtain ⟨visible, ends | ⟨opened, other, names⟩⟩ := stops_phaseBehind_iff.mp stops
    · exact locates.unended before found behind whole visible ends
    · -- What ends the search in front of the earlier tag is in front of the later one too.
      refine first before found behind other whole ⟨names, opened, visible, ?_⟩
      rintro early earlier late rfl
      exact locates.unended early earlier (late ++ found :: behind) (by simp [whole])

/-- An end of the head in a script is passed over, and a location in a script is not found. -/
example :
    let opening (name : Text) : Step := .tag ⟨name, [], false⟩
    let naming (location : Text) : Step :=
      .tag ⟨"meta", [("content", location), ("http-equiv", "X-XRDS-Location")], true⟩
    locate [opening "head", opening "script", opening "/head", naming "http://a/",
        opening "/script", naming "http://b/?c&amp;d", .malformed] =
      ⟨some "http://b/?c&d", false, [.malformed]⟩ := by
  decide +kernel

end RelyingParty.Html
