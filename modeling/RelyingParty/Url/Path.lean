import RelyingParty.Url.Escape

/-! Paths of URLs: segments between slashes, those of dots already followed. -/

namespace RelyingParty.Url

/-- A path: segments that each follow a slash, or plain text. -/
inductive Path where
  | rooted (segments : List Text)
  | plain (text : Text)
  deriving DecidableEq, Repr

/-- Whether a segment stays where it is; its dot may be escaped. -/
def staysPut (segment : Text) : Bool :=
  [".".toList, "%2e".toList].contains (Text.asciiLower segment)

/-- Whether a segment leads one step up; its dots may be escaped. -/
def leadsUp (segment : Text) : Bool :=
  ["..".toList, ".%2e".toList, "%2e.".toList, "%2e%2e".toList].contains (Text.asciiLower segment)

/-- Follows written segments from those that are reached; the last one always leaves a segment. -/
def follow (reached : List Text) : (written : List Text) → List Text
  | [] => reached
  | [last] =>
    if leadsUp last then reached.dropLast ++ [[]]
    else if staysPut last then reached ++ [[]]
    else reached ++ [escape isUnsafeInPath last]
  | segment :: rest =>
    if leadsUp segment then follow reached.dropLast rest
    else if staysPut segment then follow reached rest
    else follow (reached ++ [escape isUnsafeInPath segment]) rest

/-- Segments without empty ones at the start; one segment stays at least. -/
def withoutEmptyStart (segments : List Text) : List Text :=
  match segments.dropWhile (· = []) with
  | [] => [[]]
  | rest => rest

/-- A path as it is written. -/
def Path.render : Path → Text
  | rooted segments => segments.flatMap ('/' :: ·)
  | plain text => text

end RelyingParty.Url
