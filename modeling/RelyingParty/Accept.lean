import RelyingParty.Table
import RelyingParty.Text.Blank
import RelyingParty.Number.Decimal

/-! Accept headers: writing preferences, reading them, and ranking media types by them. -/

namespace RelyingParty.Accept

/-- A media type to ask for; no quality means one. -/
structure Preference where
  mediaType : Text
  quality : Option Binary64
  deriving DecidableEq, Repr

/-- A media range of a header, with its quality; either name may be a star. -/
structure MediaRange where
  main : Text
  sub : Text
  quality : Binary64
  deriving DecidableEq, Repr

/-- The quality of a preference with one decimal place; a quality outside of zero exclusive to one
inclusive is refused. -/
def Preference.qualityText (preference : Preference) : Except Binary64 Text :=
  match preference.quality with
  | none => .ok "1.0"
  | some quality =>
    if quality.isPositiveUnit then .ok (Binary64.tenthsText quality.tenths) else .error quality

/-- Whether one entry stands before another: by the text of its quality and then by media type. -/
def entryLe (a b : Text × Text) : Bool := a.1 < b.1 || (a.1 == b.1 && !(b.2 < a.2))

/-- One entry of a header; the full quality is left out. -/
def entryText (entry : Text × Text) : Text :=
  if entry.1 = "1.0" then entry.2 else entry.2 ++ "; q=" ++ entry.1

/-- The header for a list of preferences, the least preferred first. -/
def generate (preferences : List Preference) : Except Binary64 Text := do
  let entries ← preferences.mapM fun preference => do
    return (← preference.qualityText, preference.mediaType)
  return List.intercalate ", " ((entries.mergeSort entryLe).map entryText)

/-- The number of a quality parameter. -/
def qualityParameter? (parameter : Text) : Option Binary64 :=
  match Text.splitFirst '=' parameter with
  | some (name, value) => if Text.trim name = "q" then Binary64.parse? (Text.trim value) else none
  | none => none

/-- One media range of a header; the last readable quality counts, and one without any. -/
def parseRange? (chunk : Text) : Option MediaRange :=
  match (Text.splitAll ';' chunk).map Text.trim with
  | [] => none
  | mediaType :: parameters =>
    -- A media type without a slash is no range, whatever its parameters say.
    (Text.splitFirst '/' mediaType).map fun (main, sub) =>
      ⟨main, sub, ((parameters.filterMap qualityParameter?).getLast?).getD Binary64.one⟩

/-- The media ranges of a header by descending quality, equal ones in the order of the header. -/
def parse (header : Text) : List MediaRange :=
  ((Text.splitAll ',' header).filterMap parseRange?).mergeSort
    fun a b => b.quality.rank ≤ a.quality.rank

/-- The greatest qualities of some ranges: by main type and subtype, by main type for the ranges of
every subtype, and for the ranges of every type. -/
structure Weights where
  exact : Table (Table Binary64)
  mains : Table Binary64
  others : Binary64

/-- Raises the quality under a name to another one; a name without a quality begins at zero. -/
def raise (name : Text) (quality : Binary64) (table : Table Binary64) : Table Binary64 :=
  table.insert name (((table.get? name).getD Binary64.zero).maximum quality)

/-- Takes one more range into account. -/
def Weights.add (weights : Weights) (range : MediaRange) : Weights :=
  if range.main = ['*'] then { weights with others := weights.others.maximum range.quality }
  -- A star as main type leaves the sub type out of account.
  else if range.sub = ['*'] then
    { weights with mains := raise range.main range.quality weights.mains }
  else
    -- The main type may have weights already, to which this one is added.
    let subs := (weights.exact.get? range.main).getD []
    { weights with exact := weights.exact.insert range.main (raise range.sub range.quality subs) }

/-- The weights of some ranges; without any range every type has the full quality. -/
def Weights.ofRanges (accepted : List MediaRange) : Weights :=
  accepted.foldl Weights.add ⟨[], [], if accepted = [] then Binary64.one else Binary64.zero⟩

/-- The quality of a type: its own, else that of its main type, else the one for all types. -/
def Weights.qualityOf (weights : Weights) (mediaType : Text) : Binary64 :=
  let (main, sub) := (Text.splitFirst '/' mediaType).getD (mediaType, [])
  let own := (weights.exact.get? main).bind fun subs => subs.get? sub
  (own.or (weights.mains.get? main)).getD weights.others

/-- The available types with a quality other than zero, by descending quality. -/
def rank (accepted : List MediaRange) (available : List Text) : List (Text × Binary64) :=
  let weights := Weights.ofRanges accepted
  ((available.map fun mediaType => (mediaType, weights.qualityOf mediaType)).filter
    fun ranked => !ranked.2.isZero).mergeSort fun a b => b.2.rank ≤ a.2.rank

/-- The available types that a header accepts, the most preferred first. -/
def acceptable (header : Text) (available : List Text) : List Text :=
  (rank (parse header) available).map Prod.fst

end RelyingParty.Accept
