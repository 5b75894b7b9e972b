import RelyingParty.Text

/-! Dot segments are taken out of paths as RFC 3986 says in section 5.2.4. -/

namespace RelyingParty.Uri

/-- The first segment of a path, with the slash before it, and what follows. -/
def firstSegment : Text → Text × Text
  | [] => ([], [])
  | c :: rest => (c :: rest.takeWhile (· ≠ '/'), rest.dropWhile (· ≠ '/'))

theorem firstSegment_length (c : Char) (rest : Text) :
    (firstSegment (c :: rest)).2.length < (c :: rest).length :=
  -- The first character is in the segment.
  Nat.lt_succ_of_le (Text.dropWhile_length_le (· ≠ '/') rest)

/-- Moves a path segment by segment to the kept ones, which stand in reverse order. -/
def resolveDots (kept : List Text) : Text → List Text
  | [] => kept
  -- The rules of RFC 3986, section 5.2.4, in the order they stand there.
  | '.' :: '.' :: '/' :: rest => resolveDots kept rest
  | '.' :: '/' :: rest => resolveDots kept rest
  | '/' :: '.' :: '/' :: rest => resolveDots kept ('/' :: rest)
  | ['/', '.'] => resolveDots kept ['/']
  | '/' :: '.' :: '.' :: '/' :: rest => resolveDots kept.tail ('/' :: rest)
  | ['/', '.', '.'] => resolveDots kept.tail ['/']
  | ['.'] => kept
  | ['.', '.'] => kept
  | c :: rest => resolveDots ((firstSegment (c :: rest)).1 :: kept) (firstSegment (c :: rest)).2
termination_by path => path.length
decreasing_by
  all_goals try (simp only [List.length_cons, List.length_nil]; omega)
  exact firstSegment_length c rest

/-- The path without its dot segments. -/
def removeDotSegments (path : Text) : Text := (resolveDots [] path).reverse.flatten

end RelyingParty.Uri
