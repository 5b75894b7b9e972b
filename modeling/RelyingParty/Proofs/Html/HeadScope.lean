import RelyingParty.Html.Links
import RelyingParty.Html.Location
import RelyingParty.Proofs.Html.Scan

/-! What the head of a page names does not depend on the text behind the head, unless something that
begins in front of the end of the head reaches into that text. -/

namespace RelyingParty.Html

/-- Whether nothing that is read of a text with what follows it begins in the text and ends behind
it: no comment, CDATA section or script element, and no tag of what is left without those. -/
structure Closed (text more : Text) : Prop where
  hidden : hidesAcross more text = false
  read : readsAcross (strip more) (strip text) = false

/-- What is reported of a closed text up to a tag is reported of it with whatever follows. -/
theorem Closed.exists_scan_append {text more : Text} {front back : List Step} {tag : Tag}
    (closed : Closed text more) (reported : scan text = front ++ .tag tag :: back) :
    ∃ back', scan (text ++ more) = front ++ .tag tag :: back' := by
  -- Both halves of the closure are used: nothing is hidden across, and no tag is read across.
  rw [scan, strip_append closed.hidden]
  exact exists_steps_append closed.read reported

/-- A tag ends the search for links, adds one, or only moves the search on. -/
theorem linksFrom_tag (phase : LinkPhase) (tag : Tag) (rest : List Step) :
    linksFrom phase (.tag tag :: rest) =
      if tag.name = "/head" ∨ tag.name = "body" ∨ tag.name = "/body" ∨ tag.name = "/html" then
        ⟨[], false⟩
      else if tag.name = "html" then
        match phase with
        | .beforePage => linksFrom .beforeHead rest
        | .inHead => ⟨[], false⟩
        | _ => linksFrom phase rest
      else if tag.name = "head" then
        match phase with
        | .beforePage => linksFrom .beforePage rest
        | .beforeHead => linksFrom (if tag.selfClosing then .behindEmptyHead else .inHead) rest
        | _ => ⟨[], false⟩
      else if tag.name = "link" ∧ phase = .inHead then
        (linksFrom phase rest).addLink (linkAttributes tag)
      else linksFrom phase rest := by
  -- In each phase the conditions are asked in this order.
  cases phase with
  | beforePage => rfl
  | beforeHead => rfl
  | inHead => rfl
  | behindEmptyHead => rfl

/-- The search for links ends with the head at the latest. -/
theorem linksFrom_headEnd {phase : LinkPhase} {front : List Step} {tag : Tag}
    (ends : tag.name = "/head") (back back' : List Step) :
    linksFrom phase (front ++ .tag tag :: back) = linksFrom phase (front ++ .tag tag :: back') := by
  induction front generalizing phase with
  | nil => simp [linksFrom_tag, ends]
  | cons step front ih =>
    cases step with
    | finish => rfl
    | malformed => rfl
    | tag found =>
      -- Whatever the tag does, the search goes on with the same steps or not at all.
      simp only [List.cons_append, linksFrom_tag, ih]

/-- The phase of the search for the location behind some tags, when it has not ended at one of
them. -/
def LocationPhase.behind? : LocationPhase → List Tag → Option LocationPhase
  | phase, [] => some phase
  | phase, tag :: rest =>
    if phase.endsAt tag ∨ phase = inHead ∧ (metaLocation? tag).isSome then none
    else (phase.advance tag).behind? rest

/-- A search for the location that ends at one of some tags leaves all that is behind them. -/
theorem exists_locateFrom_of_behind? {phase : LocationPhase} {found : List Tag}
    (ends : phase.behind? found = none) :
    ∃ located : Located, ∀ back, locateFrom phase (found.map Step.tag ++ back) =
      { located with left := located.left ++ back } := by
  -- By induction on the tags, of which one stops the search.
  induction found generalizing phase with
  | nil => cases ends
  | cons tag found ih =>
    simp only [List.map_cons, List.cons_append, locateFrom]
    by_cases stops : phase.endsAt tag = true
    · exact ⟨⟨none, false, found.map Step.tag⟩, fun back => by simp [stops]⟩
    simp only [stops]
    cases named : if phase = .inHead then metaLocation? tag else none with
    | some location => exact ⟨⟨some location, false, found.map Step.tag⟩, fun back => rfl⟩
    | none =>
      -- The search goes on behind the tag, and ends there.
      have goesOn : ¬(phase.endsAt tag = true ∨
          phase = .inHead ∧ (metaLocation? tag).isSome = true) := by
        rintro (ends | ⟨inside, names⟩)
        · exact stops ends
        · rw [if_pos inside] at named
          simp [named] at names
      rw [LocationPhase.behind?, if_neg goesOn] at ends
      exact ih ends

/-- The phase in which a search for the location arrives at the end of a page, when it does. -/
def phaseAtEnd? (page : Text) : Option LocationPhase :=
  LocationPhase.beforeHead.behind? (tags (scan page))

/-- A search for the location ends with the head at the latest, unless it is in a script there. -/
theorem behind?_headEnd {phase : LocationPhase} {front : List Tag} {tag : Tag}
    (ends : tag.name = "/head") (outside : phase.behind? (front ++ [tag]) ≠ some .inScript) :
    phase.behind? (front ++ [tag]) = none := by
  induction front generalizing phase with
  | nil =>
    cases phase with
    | beforeHead => simp [LocationPhase.behind?, LocationPhase.endsAt, ends]
    | inHead => simp [LocationPhase.behind?, LocationPhase.endsAt, ends]
    | inScript =>
      -- The end of the head is no end of a script.
      refine absurd ?_ outside
      simp [LocationPhase.behind?, LocationPhase.endsAt, LocationPhase.advance, ends]
  | cons found front ih =>
    simp only [List.cons_append, LocationPhase.behind?] at outside ⊢
    split
    · rfl
    · -- A tag that is passed leaves the claim to the tags behind it.
      rename_i goesOn
      rw [if_neg goesOn] at outside
      exact ih outside

/-- The text behind a head does not change what the head names: when nothing that begins in front
of the end of the head reaches into a text, that text neither adds links nor takes them away, and
neither changes the location, unless the search for it is in a script at the end of the head. The
head is given by a part of the page that has all its tags, of which the last ends the head. -/
theorem head_scope {head tail more : Text}
    (reported : tags (scan head) = tags (scan (head ++ tail)))
    (ends : (tags (scan (head ++ tail))).getLast?.map Tag.name = some "/head".toList)
    (closed : Closed head (tail ++ more)) :
    links (head ++ tail ++ more) = links (head ++ tail) ∧
      (phaseAtEnd? (head ++ tail) ≠ some .inScript →
        pageLocation (head ++ tail ++ more) = pageLocation (head ++ tail)) := by
  obtain ⟨tag, last, named⟩ := Option.map_eq_some_iff.mp ends
  obtain ⟨front, whole⟩ := List.getLast?_eq_some_iff.mp last
  -- Both pages report the same tags up to the end of the head.
  have shorter : ∃ back, scan (head ++ tail) = front.map Step.tag ++ .tag tag :: back := by
    obtain ⟨n, all⟩ := exists_steps_eq (strip (head ++ tail))
    refine ⟨List.replicate n .malformed, ?_⟩
    rw [scan, all, ← scan, whole]
    simp
  have longer : ∃ back, scan (head ++ tail ++ more) = front.map Step.tag ++ .tag tag :: back := by
    obtain ⟨n, own⟩ := exists_steps_eq (strip head)
    have reachesIt : scan head = front.map Step.tag ++ .tag tag :: List.replicate n .malformed := by
      rw [scan, own, ← scan, reported, whole]
      simp
    rw [List.append_assoc]
    exact closed.exists_scan_append reachesIt
  obtain ⟨back, shorter⟩ := shorter
  obtain ⟨back', longer⟩ := longer
  -- Links end with the head, and so does the location outside of scripts.
  constructor
  · rw [links, links, shorter, longer]
    exact linksFrom_headEnd named back' back
  · intro outside
    have stops : LocationPhase.beforeHead.behind? (front ++ [tag]) = none :=
      behind?_headEnd named (by rwa [phaseAtEnd?, whole] at outside)
    obtain ⟨located, same⟩ := exists_locateFrom_of_behind? stops
    have located_of : ∀ back, locate (front.map Step.tag ++ .tag tag :: back) =
        { located with left := located.left ++ back } := by
      intro back
      rw [locate, ← same back]
      simp
    rw [pageLocation, pageLocation, shorter, longer]
    simp only [located_of]

/-- A comment that is opened behind a head and closed behind a link does not plant the link. -/
theorem head_scope_comment :
    links ("<html><head><link rel=\"openid.server\" href=\"http://op/\"></head>".toList ++
        " <!-- ".toList ++ "<link rel=\"openid2.provider\" href=\"http://evil/\"> -->".toList) =
      links ("<html><head><link rel=\"openid.server\" href=\"http://op/\"></head>".toList ++
        " <!-- ".toList) ∧
    pageLocation ("<html><head><link rel=\"openid.server\" href=\"http://op/\"></head>".toList ++
        " <!-- ".toList ++ "<link rel=\"openid2.provider\" href=\"http://evil/\"> -->".toList) =
      pageLocation ("<html><head><link rel=\"openid.server\" href=\"http://op/\"></head>".toList ++
        " <!-- ".toList) := by
  -- Every condition is decided on the two texts.
  refine And.imp_right (fun located => located ?_) (head_scope ?_ ?_ ⟨?_, ?_⟩)
  all_goals decide +kernel

/-- The text behind a head does change what the head names when a comment, a tag or a script reaches
into it. Each of the three is enough by itself: a comment that hides the end of the head, a value
that contains it, and a script in which the search for the location passes it over. -/
theorem head_scope_reached :
    (¬∀ head more : Text, (tags (scan head)).getLast?.map Tag.name = some "/head".toList →
      (links (head ++ more)).value = (links head).value ∧
        (pageLocation (head ++ more)).value = (pageLocation head).value) ∧
    (¬∀ head more : Text, (tags (scan head)).getLast?.map Tag.name = some "/head".toList →
      readsAcross (strip more) (strip head) = false →
        (links (head ++ more)).value = (links head).value) ∧
    (¬∀ head more : Text, (tags (scan head)).getLast?.map Tag.name = some "/head".toList →
      hidesAcross more head = false →
        (links (head ++ more)).value = (links head).value) ∧
    ¬∀ head more : Text, (tags (scan head)).getLast?.map Tag.name = some "/head".toList →
      Closed head more → (pageLocation (head ++ more)).value = (pageLocation head).value := by
  -- One page each: what is hidden, what is quoted and what is in a script.
  have commented : ¬∀ head more : Text,
      (tags (scan head)).getLast?.map Tag.name = some "/head".toList →
        readsAcross (strip more) (strip head) = false →
          (links (head ++ more)).value = (links head).value := by
    intro always
    have same := always "<html><head><!-- > </head>".toList
      "--><link rel=\"openid.server\" href=\"http://evil/\">".toList
      (by decide +kernel) (by decide +kernel)
    exact absurd same (by decide +kernel)
  refine ⟨fun always => ?_, commented, fun always => ?_, fun always => ?_⟩
  · exact commented fun head more ends _ => (always head more ends).1
  · -- A quote that is left open takes the end of the head into the value.
    have same := always "<html><head><meta title=\"></head>".toList
      "\"><link rel=\"openid.server\" href=\"http://evil/\">".toList
      (by decide +kernel) (by decide +kernel)
    exact absurd same (by decide +kernel)
  · -- In an open script the end of the head is passed over.
    have same := always "<html><head><script ></head>".toList
      "</script ><meta http-equiv=\"X-XRDS-Location\" content=\"http://evil/\">".toList
      (by decide +kernel) ⟨by decide +kernel, by decide +kernel⟩
    exact absurd same (by decide +kernel)

end RelyingParty.Html
