import RelyingParty.Html.Match
import RelyingParty.Html.Scan
import RelyingParty.Text.Octet

/-! A scan of a page by places in it. A slice that does not begin between two characters, and a
group that took no part in a match, leave it without a result. -/

namespace RelyingParty.Html

/-- A page without its hidden markup, and the octet from which it is still to be scanned. -/
structure Scanner where
  html : Text
  position : Nat
  deriving DecidableEq, Repr

namespace Scanner

/-- The scan of a page, at its beginning. -/
def ofPage (page : Text) : Scanner := ⟨strip page, 0⟩

/-- The same scan at another octet. -/
def moveTo (scanner : Scanner) (position : Nat) : Scanner := { scanner with position }

/-- The next tag, whatever its name, or what is met in place of one. -/
def nextAny? (scanner : Scanner) : Option (Step × Scanner) :=
  match _left : Text.fromOctet? scanner.position scanner.html with
  | none => none
  | some left =>
    match _offset : Text.octetOf? '<' left with
    | none => some (.finish, scanner.moveTo (Text.octets scanner.html))
    | some offset =>
      let start := scanner.position + offset
      -- The bracket is one octet, so what begins with it begins between two characters.
      match Text.fromOctet? start scanner.html with
      | none => none
      | some rest =>
        if opensTag (rest.drop 1) then
          match tagMatch? rest with
          | none => some (.malformed, scanner.moveTo (Text.octets scanner.html))
          | some groups =>
            (groups.text? 0).bind fun whole =>
              (buildTag? groups).map fun tag =>
                (.tag tag, scanner.moveTo (start + Text.octets whole))
        else if isDeclaration (rest.drop 1) then
          match Text.octetOf? '>' rest with
          -- The position is counted from the bracket on, which stands at the start.
          | some close => nextAny? (scanner.moveTo (start + close + 1))
          | none => some (.malformed, scanner.moveTo (start + 1))
        else nextAny? (scanner.moveTo (start + 1))
termination_by Text.octets scanner.html - scanner.position
decreasing_by
  all_goals
    have inside := Text.add_octetOf?_lt _left _offset
    simp only [moveTo]
    omega

/-- What is met is met behind the place where the scan was, unless it is the end. -/
theorem nextAny?_advances {scanner later : Scanner} {step : Step}
    (met : scanner.nextAny? = some (step, later)) (goes_on : step ≠ .finish) :
    later.html = scanner.html ∧ scanner.position < later.position ∧
      scanner.position < Text.octets scanner.html := by
  fun_induction nextAny? scanner with
  -- In each case a bracket was found behind the place, and the scan goes on behind that bracket.
  | case1 => cases met
  | case2 =>
    cases met
    exact absurd rfl goes_on
  | case3 => cases met
  | case4 scanner left taken offset found =>
    have inside := Text.add_octetOf?_lt taken found
    cases met
    exact ⟨rfl, by simp only [moveTo]; omega, by omega⟩
  | case5 scanner left taken offset found start rest _ _ groups matched =>
    have inside := Text.add_octetOf?_lt taken found
    obtain ⟨whole, first, built⟩ := Option.bind_eq_some_iff.mp met
    obtain ⟨tag, _, same⟩ := Option.map_eq_some_iff.mp built
    have some_octets := Text.octets_pos (ne_nil_of_tagMatch? matched first)
    cases same
    exact ⟨rfl, by simp only [moveTo, start]; omega, by omega⟩
  -- A declaration or a bracket without a tag is passed over, and the scan behind it advances
  -- further.
  | case6 scanner left taken offset found start rest _ _ _ close _ ih =>
    have inside := Text.add_octetOf?_lt taken found
    obtain ⟨same, advanced, _⟩ := ih met
    simp only [moveTo, start] at same advanced
    exact ⟨same, by omega, by omega⟩
  | case7 scanner left taken offset found start =>
    have inside := Text.add_octetOf?_lt taken found
    cases met
    exact ⟨rfl, by simp only [moveTo, start]; omega, by omega⟩
  | case8 scanner left taken offset found start rest _ _ _ ih =>
    have inside := Text.add_octetOf?_lt taken found
    obtain ⟨same, advanced, _⟩ := ih met
    simp only [moveTo, start] at same advanced
    exact ⟨same, by omega, by omega⟩

/-- The next tag of some names, or what is met in front of it. -/
def next? (names : List Text) (scanner : Scanner) : Option (Step × Scanner) :=
  match _met : scanner.nextAny? with
  | none => none
  | some (step, later) =>
    if step.isReported names then some (step, later) else next? names later
termination_by Text.octets scanner.html - scanner.position
decreasing_by
  have goes_on : step ≠ .finish := by
    rintro rfl
    contradiction
  obtain ⟨same, advanced, inside⟩ := nextAny?_advances _met goes_on
  rw [same]
  omega

/-- What is answered to some requests in turn, each for the tags of some names. -/
def answers? : List (List Text) → Scanner → Option (List Step × Scanner)
  | [], scanner => some ([], scanner)
  | names :: requests, scanner => do
    let (step, scanner) ← scanner.next? names
    -- The scanner is where the last answer has left it.
    let (steps, scanner) ← answers? requests scanner
    return (step :: steps, scanner)

end Scanner

end RelyingParty.Html
