import RelyingParty.Html.Scan
import RelyingParty.Html.Entity
import RelyingParty.Text.Case

/-! The links in the head of a page. -/

namespace RelyingParty.Html

/-- Where a search for links stands: before the page, before its head, in its head, or behind a
head that closes itself. -/
inductive LinkPhase where
  | beforePage
  | beforeHead
  | inHead
  | behindEmptyHead
  deriving DecidableEq, Repr

/-- The attributes of a link with the escapes of their values undone. -/
def linkAttributes (tag : Tag) : Attributes := tag.attributes.map fun (name, value) =>
  (name, unescapeLink value)

/-- Puts a link before those that are found later. -/
def Scanned.addLink (link : Attributes) (found : Scanned (List Attributes)) :
    Scanned (List Attributes) := { found with value := link :: found.value }

/-- The links from a phase on. -/
def linksFrom (phase : LinkPhase) : List Step → Scanned (List Attributes)
  | [] => ⟨[], false⟩
  | .finish :: _ => ⟨[], false⟩
  | .malformed :: _ => ⟨[], true⟩
  | .tag tag :: rest =>
    -- The end of the head, and what can only stand behind it, end the search in every phase.
    if tag.name = "/head" ∨ tag.name = "body" ∨ tag.name = "/body" ∨ tag.name = "/html" then
      ⟨[], false⟩
    else if tag.name = "html" then
      match phase with
      | .beforePage => linksFrom .beforeHead rest
      | .inHead => ⟨[], false⟩
      | _ => linksFrom phase rest
    else if tag.name = "head" then
      match phase with
      -- A head in front of the page is none of the page.
      | .beforePage => linksFrom .beforePage rest
      | .beforeHead => linksFrom (if tag.selfClosing then .behindEmptyHead else .inHead) rest
      | _ => ⟨[], false⟩
    -- Only links in the head count, whatever they are.
    else if tag.name = "link" ∧ phase = .inHead then
      (linksFrom phase rest).addLink (linkAttributes tag)
    else linksFrom phase rest

/-- The links in the head of a page, in order. -/
def links (page : Text) : Scanned (List Attributes) := linksFrom .beforePage (scan page)

/-- Whether a relation is among the words of a `rel` value, in any case. -/
def relMatches (rel relation : Text) : Bool :=
  (Text.words rel).any fun word => Text.lower word = relation

/-- Whether a link has a relation. -/
def hasRelation (link : Attributes) (relation : Text) : Bool :=
  (Table.get? "rel" link).any (relMatches · relation)

/-- The links that have a relation, in order. -/
def linksWith (links : List Attributes) (relation : Text) : List Attributes :=
  links.filter (hasRelation · relation)

/-- The target of the first link that has a relation. -/
def firstTarget? (links : List Attributes) (relation : Text) : Option Text :=
  (linksWith links relation).head?.bind (Table.get? "href")

end RelyingParty.Html
