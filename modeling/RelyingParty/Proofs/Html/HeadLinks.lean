import RelyingParty.Proofs.Html.HeadScope

/-! The links of a page are the `link` tags of its head. The head is the first one behind the tag of
the page, and it goes on to the next head or page, or to whatever ends the search before that. -/

namespace RelyingParty.Html

/-- Whether a tag has a name. -/
def Tag.isNamed (name : Text) (tag : Tag) : Bool := tag.name = name

/-- Whether a tag ends the head, wherever it stands. -/
def Tag.endsHead (tag : Tag) : Bool :=
  -- The head need not be closed: what can only stand behind it ends it too.
  tag.isNamed "/head" || tag.isNamed "body" || tag.isNamed "/body" || tag.isNamed "/html"

/-- The tags that end the head are those at which the search stops in every phase. -/
theorem Tag.endsHead_iff (tag : Tag) :
    tag.endsHead = true ↔
      tag.name = "/head" ∨ tag.name = "body" ∨ tag.name = "/body" ∨ tag.name = "/html" := by
  simp only [Tag.endsHead, Tag.isNamed, Bool.or_eq_true, decide_eq_true_eq, or_assoc]

/-- A tag has its own name and no other. -/
theorem Tag.isNamed_of_name {tag : Tag} {name : Text} (named : tag.name = name) (other : Text) :
    tag.isNamed other = decide (name = other) := by
  rw [Tag.isNamed, named]

/-- The tags that a search for links comes to: those in front of the first step that is no tag, and
in front of the first tag that ends the head. -/
def searchedTags (scan : List Step) : List Tag :=
  (tags (scan.takeWhile fun step => step.tag?.isSome)).takeWhile fun tag => !tag.endsHead

/-- The `link` tags of an open head, of the tags behind its own. -/
def openHeadLinks (behind : List Tag) : List Tag :=
  -- Another head or page ends the head, even when nothing closes it.
  (behind.takeWhile fun tag => !(tag.isNamed "head" || tag.isNamed "html")).filter
    fun tag => tag.isNamed "link"

/-- The `link` tags of a head, of the tags from its own on; a head that closes itself has none. -/
def headLinks : List Tag → List Tag
  | [] => []
  | head :: behind => if head.selfClosing then [] else openHeadLinks behind

namespace LinkPhase

/-- The `link` tags that a search is to find from a phase on, of the tags that it comes to. -/
def linkTags (phase : LinkPhase) (found : List Tag) : List Tag :=
  match phase with
  | beforePage =>
    headLinks ((found.dropWhile fun tag => !tag.isNamed "html").dropWhile
      fun tag => !tag.isNamed "head")
  | beforeHead => headLinks (found.dropWhile fun tag => !tag.isNamed "head")
  | inHead => openHeadLinks found
  -- Behind a head that closes itself the search is over.
  | behindEmptyHead => []

/-- The tag of a page opens it, or ends the head that it stands in. -/
theorem linkTags_html {tag : Tag} (named : tag.name = "html") (phase : LinkPhase)
    (rest : List Tag) :
    phase.linkTags (tag :: rest) =
      match phase with
      | beforePage => beforeHead.linkTags rest
      | inHead => []
      | _ => phase.linkTags rest := by
  -- Only the phase in front of the page is waiting for this tag.
  cases phase with
  | beforePage => simp [linkTags, Tag.isNamed_of_name named]
  | beforeHead => simp [linkTags, Tag.isNamed_of_name named]
  | inHead => simp [linkTags, openHeadLinks, Tag.isNamed_of_name named]
  | behindEmptyHead => rfl

/-- The tag of a head is passed over in front of a page, opens the head of the page, or ends it. -/
theorem linkTags_head {tag : Tag} (named : tag.name = "head") (phase : LinkPhase)
    (rest : List Tag) :
    phase.linkTags (tag :: rest) =
      match phase with
      | beforePage => beforePage.linkTags rest
      | beforeHead => (if tag.selfClosing then behindEmptyHead else inHead).linkTags rest
      | _ => [] := by
  cases phase with
  | beforePage => simp [linkTags, Tag.isNamed_of_name named]
  | beforeHead =>
    -- Behind its own tag a head is open unless it closes itself.
    cases closes : tag.selfClosing with
    | true => simp [linkTags, headLinks, Tag.isNamed_of_name named, closes]
    | false => simp [linkTags, headLinks, Tag.isNamed_of_name named, closes]
  | inHead => simp [linkTags, openHeadLinks, Tag.isNamed_of_name named]
  | behindEmptyHead => rfl

/-- Any other tag counts when it is a link in the head. -/
theorem linkTags_other {tag : Tag} (noPage : tag.name ≠ "html") (noHead : tag.name ≠ "head")
    (phase : LinkPhase) (rest : List Tag) :
    phase.linkTags (tag :: rest) =
      if tag.name = "link" ∧ phase = inHead then tag :: phase.linkTags rest
      else phase.linkTags rest := by
  have page : tag.isNamed "html" = false := decide_eq_false noPage
  have head : tag.isNamed "head" = false := decide_eq_false noHead
  cases phase with
  | beforePage =>
    simp only [linkTags, List.dropWhile_cons, page, Bool.not_false, ↓reduceIte, reduceCtorEq,
      and_false]
  | beforeHead =>
    simp only [linkTags, List.dropWhile_cons, head, Bool.not_false, ↓reduceIte, reduceCtorEq,
      and_false]
  -- A tag that does not end the head stays among those of it.
  | inHead =>
    simp only [linkTags, openHeadLinks, List.takeWhile_cons, page, head, Bool.or_self,
      Bool.not_false, ↓reduceIte, List.filter_cons, and_true]
    -- What is left of both sides tells links from other tags.
    simp only [Tag.isNamed, decide_eq_true_eq]
  | behindEmptyHead => simp only [linkTags, reduceCtorEq, and_false, ↓reduceIte]

end LinkPhase

/-- A step that is no tag ends the search. -/
theorem searchedTags_of_no_tag {step : Step} (other : step.tag? = none) (rest : List Step) :
    searchedTags (step :: rest) = [] := by
  simp [searchedTags, other, tags]

/-- A tag ends the search, or is one of those that it comes to. -/
theorem searchedTags_tag (tag : Tag) (rest : List Step) :
    searchedTags (.tag tag :: rest) = if tag.endsHead then [] else tag :: searchedTags rest := by
  -- The end of the head is where the tags are cut off.
  cases ends : tag.endsHead with
  | true => simp [searchedTags, Step.tag?, tags, ends]
  | false => simp [searchedTags, Step.tag?, tags, ends]

/-- From any phase on the search finds the links that it is to find there. -/
theorem value_linksFrom (phase : LinkPhase) (scan : List Step) :
    (linksFrom phase scan).value = (phase.linkTags (searchedTags scan)).map linkAttributes := by
  -- Every step ends the search on both sides, or moves both on to the same phase.
  induction scan generalizing phase with
  | nil => cases phase <;> rfl
  | cons step rest ih =>
    cases step with
    | finish =>
      rw [searchedTags_of_no_tag rfl]
      cases phase <;> rfl
    | malformed =>
      rw [searchedTags_of_no_tag rfl]
      cases phase <;> rfl
    | tag tag =>
      rw [linksFrom_tag, searchedTags_tag]
      -- A tag that ends the head ends the search on both sides, from any phase.
      by_cases ends : tag.endsHead = true
      · rw [if_pos ends, if_pos (tag.endsHead_iff.mp ends)]
        cases phase <;> rfl
      rw [if_neg ends, if_neg (mt tag.endsHead_iff.mpr ends)]
      by_cases page : tag.name = "html"
      · rw [if_pos page, LinkPhase.linkTags_html page]
        cases phase with
        | beforePage => exact ih .beforeHead
        | beforeHead => exact ih .beforeHead
        | inHead => rfl
        | behindEmptyHead => exact ih .behindEmptyHead
      rw [if_neg page]
      by_cases head : tag.name = "head"
      · rw [if_pos head, LinkPhase.linkTags_head head]
        cases phase with
        | beforePage => exact ih .beforePage
        | beforeHead => exact ih _
        | inHead => rfl
        | behindEmptyHead => rfl
      rw [if_neg head, LinkPhase.linkTags_other page head]
      -- No tag is left that moves the search to another phase.
      split
      · rw [Scanned.addLink, ih, List.map_cons]
      · exact ih phase

/-- The links of a page are the `link` tags of its head, in order and with the escapes of their
values undone: of the tags that the search comes to, those behind the first head behind the first
tag of a page, and in front of the next head or page. Without such a head there are none, and
neither are there when it closes itself. -/
theorem links_of_head (page : Text) :
    (links page).value =
      (headLinks (((searchedTags (scan page)).dropWhile fun tag => !tag.isNamed "html").dropWhile
        fun tag => !tag.isNamed "head")).map
          fun tag => tag.attributes.map fun (name, value) => (name, unescapeLink value) := by
  -- The search begins in front of the page.
  exact value_linksFrom .beforePage (scan page)

/-- Links in front of the head and behind a second one are none of the head, and an empty head has
none. -/
example :
    let front : Text := "<head><link a=1><html><link a=2>"
    let head : Text := "<head><link a=3&amp;4><meta><link a=5><head><link a=6>"
    (links (front ++ head)).value =
        [[("a".toList, "3&4".toList)], [("a".toList, "5".toList)]] ∧
      (links "<html><head/><link a=1><link a=2>".toList).value = [] := by
  decide +kernel

end RelyingParty.Html
