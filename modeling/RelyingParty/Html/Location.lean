import RelyingParty.Html.Scan
import RelyingParty.Html.Entity

/-! The head of a page may name the location of its XRDS document. -/

namespace RelyingParty.Html

/-- Where a search for the location stands. -/
inductive LocationPhase where
  | beforeHead
  | inHead
  | inScript
  deriving DecidableEq, Repr

/-- What a search for the location finds, and the steps it leaves. -/
structure Located where
  location : Option Text
  malformed : Bool
  left : List Step
  deriving DecidableEq, Repr

/-- The location that a tag names, when it is a `meta` tag for it. -/
def metaLocation? (tag : Tag) : Option Text :=
  if tag.name = "meta" then
    match Table.get? "http-equiv" tag.attributes with
    | none => none
    | some name =>
      -- Both names are in use for the same header.
      if Text.asciiLower name = "x-xrds-location" ∨ Text.asciiLower name = "x-yadis-location" then
        (Table.get? "content" tag.attributes).map unescape
      else none
  else none

/-- The phase behind a tag that does not end the search. -/
def LocationPhase.advance (phase : LocationPhase) (tag : Tag) : LocationPhase :=
  match phase with
  | beforeHead => if tag.name = "head" ∧ !tag.selfClosing then inHead else beforeHead
  | inHead => if tag.name = "script" ∧ !tag.selfClosing then inScript else inHead
  | inScript => if tag.name = "/script" then inHead else inScript

/-- Whether a tag ends the search: an end of the head, or a page inside the head. -/
def LocationPhase.endsAt (phase : LocationPhase) (tag : Tag) : Bool :=
  match phase with
  -- A script may contain what looks like tags.
  | inScript => false
  | beforeHead => tag.name = "/head" || tag.name = "body" || tag.name = "/body"
  | inHead =>
    tag.name = "/head" || tag.name = "body" || tag.name = "/body" || tag.name = "html"

/-- Searches from a phase on. -/
def locateFrom (phase : LocationPhase) : List Step → Located
  | [] => ⟨none, false, []⟩
  | .finish :: rest => ⟨none, false, rest⟩
  | .malformed :: rest => ⟨none, true, rest⟩
  | .tag tag :: rest =>
    if phase.endsAt tag then ⟨none, false, rest⟩
    else
      -- A location outside of the head is passed over like any other tag.
      match if phase = .inHead then metaLocation? tag else none with
      | some location => ⟨some location, false, rest⟩
      | none => locateFrom (phase.advance tag) rest

/-- Searches a scan for the location. -/
def locate (scan : List Step) : Located := locateFrom .beforeHead scan

/-- The location that the head of a page names. -/
def pageLocation (page : Text) : Scanned (Option Text) :=
  let located := locate (scan page)
  ⟨located.location, located.malformed⟩

end RelyingParty.Html
