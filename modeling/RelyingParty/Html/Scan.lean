import RelyingParty.Html.Strip
import RelyingParty.Html.Tag

/-! Pages are scanned for tags; a scan is the sequence of what it meets. -/

namespace RelyingParty.Html

/-- What a scan meets: a tag, an end, or markup that is no tag. -/
inductive Step where
  | tag (tag : Tag)
  | finish
  | malformed
  deriving DecidableEq, Repr

/-- What was found by a scan, and whether malformed markup ended it. -/
structure Scanned (α : Type) where
  value : α
  malformed : Bool
  deriving DecidableEq, Repr

/-- Whether a declaration or an instruction begins with this text, its angle bracket read. -/
def isDeclaration (text : Text) : Bool := text.head? = some '!' || text.head? = some '?'

/-- The scan of a text that is stripped of comments, CDATA sections and scripts. -/
def steps (text : Text) : List Step :=
  match _start : text.dropWhile (· ≠ '<') with
  | [] => []
  | _ :: rest =>
    if opensTag rest then
      match _read : Tag.read? rest with
      | some (tag, behind) => .tag tag :: steps behind
      -- A tag that does not end is the end of the scan.
      | none => [.malformed]
    else if isDeclaration rest then
      match _closed : Text.splitFirst '>' rest with
      | some (_, behind) => steps behind
      -- Of a declaration that does not end only the bracket is passed over.
      | none => .malformed :: steps rest
    else steps rest
termination_by text.length
decreasing_by
  all_goals
    have skipped := Text.dropWhile_length_le (· ≠ '<') text
    rw [_start] at skipped
    simp at skipped
  · have := Tag.read?_length _read
    omega
  · have := Text.splitFirst_length _closed
    omega
  · omega
  · omega

/-- The scan of a page. -/
def scan (page : Text) : List Step := steps (strip page)

/-- Whether a step is reported to a reader that asks for some tags only. -/
def Step.isReported (names : List Text) : Step → Bool
  | tag found => names.contains found.name
  | _ => true

/-- The first step that is reported for some names, and those after it; an exhausted scan reports
its end. -/
def next (names : List Text) (scan : List Step) : Step × List Step :=
  match scan.dropWhile fun step => !step.isReported names with
  | [] => (.finish, [])
  | step :: rest => (step, rest)

end RelyingParty.Html
