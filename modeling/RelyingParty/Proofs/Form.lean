import Mathlib.Data.List.DropRight
import RelyingParty.Form
import RelyingParty.Proofs.Text
import RelyingParty.Proofs.Text.Parts
import RelyingParty.Proofs.Url.Escape

/-! Arguments are read back from the query that they are written in. -/

namespace RelyingParty.Form

open Text (marked splitAll cutTail percentOctet utf8)

/-- A character of the form encoding, where a plus sign stands for a space. -/
def spaced (c : Char) : Char := if c = '+' then ' ' else c

/-- The text that a part in the form encoding stands for. -/
def decode (part : Text) : Text := Text.ofUtf8 (Url.unescape (part.map spaced))

/-- The name and the value of an argument, which the first equals sign stands between. -/
def decodePair (part : Text) : Text × Text :=
  let cut := cutTail '=' part
  (decode cut.1, decode (cut.2.getD []))

/-- The arguments of a query: the parts between its ampersands, without the empty ones. -/
def arguments (query : Text) : List (Text × Text) :=
  ((splitAll '&' query).filter (· ≠ [])).map decodePair

/-- The query of a URL: what stands behind the first question mark, up to the first number sign of
the URL. -/
def query (url : Text) : Text := (cutTail '?' (cutTail '#' url).1).2.getD []

/-- The arguments that a URL carries. -/
def argumentsOf (url : Text) : List (Text × Text) := arguments (query url)

/-- The marks that delimit arguments and the query they are in. -/
def reservedMarks : List Char := ['&', '=', '?', '#']

/-- An octet that stands for itself is the character that a decoder passes over. -/
theorem of_isPlain {octet : UInt8} (plain : isPlain octet = true) :
    spaced (Char.ofNat octet.toNat) = Char.ofNat octet.toNat ∧ Char.ofNat octet.toNat ≠ '%' ∧
      utf8 [Char.ofNat octet.toNat] = [octet] :=
  -- All octets are tried.
  Url.octet_induction (p := fun octet => isPlain octet = true →
    spaced (Char.ofNat octet.toNat) = Char.ofNat octet.toNat ∧ Char.ofNat octet.toNat ≠ '%' ∧
      utf8 [Char.ofNat octet.toNat] = [octet]) (by decide +kernel) octet plain

/-- A triplet has no plus sign in it. -/
theorem map_spaced_percentOctet (octet : UInt8) :
    (percentOctet octet).map spaced = percentOctet octet :=
  Url.octet_induction (p := fun octet => (percentOctet octet).map spaced = percentOctet octet)
    (by decide +kernel) octet

/-- No octet is encoded with a reserved mark. -/
theorem not_mem_encodeOctet {mark : Char} (reserved : mark ∈ reservedMarks) (octet : UInt8) :
    mark ∉ encodeOctet octet := by
  -- All marks are tried with all octets.
  have all : reservedMarks.all (fun mark => !(encodeOctet octet).contains mark) = true :=
    Url.octet_induction (p := fun octet => reservedMarks.all
      (fun mark => !(encodeOctet octet).contains mark) = true) (by decide +kernel) octet
  simpa using List.all_eq_true.mp all mark reserved

/-- An octet is read back from its encoding. -/
theorem unescape_encodeOctet (octet : UInt8) (rest : Text) :
    Url.unescape ((encodeOctet octet).map spaced ++ rest) = octet :: Url.unescape rest := by
  unfold encodeOctet
  split
  · rename_i plain
    obtain ⟨same, percent, octets⟩ := of_isPlain plain
    rw [List.map_singleton, same, List.singleton_append, Url.unescape_cons percent, octets,
      List.singleton_append]
  split
  · -- A space is written as a plus sign.
    rename_i space
    subst space
    exact Url.unescape_cons (by decide) rest
  · rw [map_spaced_percentOctet, Url.unescape_percentOctet]

/-- A text is read back from its encoding. -/
theorem decode_encode (text : Text) : decode (encode text) = text := by
  -- The octets are read back one by one, and the text from them.
  have octets : ∀ octets : Octets,
      Url.unescape ((octets.flatMap encodeOctet).map spaced) = octets := by
    intro octets
    induction octets with
    | nil => rfl
    | cons octet octets ih =>
      rw [List.flatMap_cons, List.map_append, unescape_encodeOctet, ih]
  rw [decode, encode, octets, Text.ofUtf8_utf8]

/-- An encoded text has no reserved marks. -/
theorem not_mem_encode {mark : Char} (reserved : mark ∈ reservedMarks) (text : Text) :
    mark ∉ encode text := by
  -- No octet is written with such a mark.
  intro inside
  obtain ⟨octet, _, member⟩ := List.mem_flatMap.mp inside
  exact not_mem_encodeOctet reserved octet member

/-- An argument is read back from its encoding. -/
theorem decodePair_encodePair (pair : Text × Text) : decodePair (encodePair pair) = pair := by
  -- The equals sign between the name and the value is the first one, as the name has none.
  have cut : cutTail '=' (encodePair pair) = (encode pair.1, some (encode pair.2)) :=
    Text.cutTail_eq_iff.mpr ⟨rfl, not_mem_encode (by decide) pair.1⟩
  rw [decodePair, cut]
  simp [decode_encode]

/-- An encoded argument has no reserved marks but the equals sign. -/
theorem not_mem_encodePair {mark : Char} (reserved : mark ∈ reservedMarks) (other : mark ≠ '=')
    (pair : Text × Text) : mark ∉ encodePair pair := by
  -- A mark would be in the name, in the value or between them.
  intro inside
  rcases List.mem_append.mp inside with name | behind
  · exact not_mem_encode reserved pair.1 name
  · rcases List.mem_cons.mp behind with equals | value
    · exact other equals
    · exact not_mem_encode reserved pair.2 value

/-- An ampersand ends the arguments before it. -/
theorem arguments_append (front back : Text) :
    arguments (front ++ '&' :: back) = arguments front ++ arguments back := by
  -- The text is cut at every ampersand, so at this one too.
  rw [arguments, Text.splitAll_append_mark, List.filter_append, List.map_append]
  rfl

/-- The arguments are read back from their encodings with ampersands between them. -/
theorem arguments_encoded (pairs : List (Text × Text)) :
    arguments (['&'].intercalate (pairs.map encodePair)) = pairs := by
  by_cases none : pairs = []
  · subst none
    rfl
  · -- An ampersand in a pair is encoded.
    have absent : ∀ part ∈ pairs.map encodePair, '&' ∉ part := by
      intro part inside
      obtain ⟨pair, _, rfl⟩ := List.mem_map.mp inside
      exact not_mem_encodePair (by decide) (by decide) pair
    -- No part is empty, as there is an equals sign in each.
    have kept : (pairs.map encodePair).filter (· ≠ []) = pairs.map encodePair := by
      refine List.filter_eq_self.mpr fun part inside => ?_
      obtain ⟨pair, _, rfl⟩ := List.mem_map.mp inside
      simp [encodePair]
    rw [arguments, Text.splitAll_eq_splitOn,
      List.splitOn_intercalate '&' absent (by simpa using none), kept, List.map_map]
    exact (List.map_congr_left fun pair _ => decodePair_encodePair pair).trans (List.map_id _)

/-- The query of a URL without a number sign is what stands behind its first question mark. -/
theorem query_eq {head : Text} {tail : Option Text} (absent : '?' ∉ head)
    (whole : '#' ∉ head ++ marked '?' tail) : query (head ++ marked '?' tail) = tail.getD [] := by
  -- Without a number sign nothing is cut off as a fragment.
  have fragment : cutTail '#' (head ++ marked '?' tail) = (head ++ marked '?' tail, none) :=
    Text.cutTail_eq_iff.mpr ⟨by simp [marked], whole⟩
  have cut : cutTail '?' (head ++ marked '?' tail) = (head, tail) :=
    Text.cutTail_eq_iff.mpr ⟨rfl, absent⟩
  rw [query, fragment, cut]

/-- What is written in front of arguments that are added to a URL. -/
def separator (base : Text) : Char := if base.contains '?' then '&' else '?'

/-- Arguments behind the separator are carried behind those of the URL. -/
theorem argumentsOf_append {base : Text} (whole : '#' ∉ base) (pairs : List (Text × Text)) :
    argumentsOf (base ++ separator base :: ['&'].intercalate (pairs.map encodePair)) =
      argumentsOf base ++ pairs := by
  let added := ['&'].intercalate (pairs.map encodePair)
  have absent : '#' ∉ added := by
    refine Text.not_mem_intercalate (by decide) fun part inside => ?_
    obtain ⟨pair, _, rfl⟩ := List.mem_map.mp inside
    exact not_mem_encodePair (by decide) (by decide) pair
  have read : arguments added = pairs := arguments_encoded pairs
  obtain ⟨head, tail, rfl, front⟩ := Text.exists_marked '?' base
  cases tail with
  | none =>
    -- The URL has no query, and the arguments are the one it gets.
    have separates : separator (head ++ marked '?' none) = '?' := by simp [separator, marked, front]
    have longer : query (head ++ marked '?' (some added)) = added :=
      query_eq front (by simpa [marked, absent] using whole)
    rw [separates, argumentsOf, argumentsOf, query_eq front whole]
    simp only [marked, List.append_nil] at longer ⊢
    rw [longer, read]
    rfl
  | some own =>
    -- The arguments are behind the query that the URL has.
    have separates : separator (head ++ marked '?' (some own)) = '&' := by simp [separator, marked]
    have longer : query (head ++ marked '?' (some (own ++ '&' :: added))) = own ++ '&' :: added :=
      query_eq front (by simp [marked, absent] at whole ⊢; exact whole)
    rw [separates, argumentsOf, argumentsOf, query_eq front whole]
    simp only [marked, List.append_assoc, List.cons_append, Option.getD_some] at longer ⊢
    rw [longer, arguments_append, read]

/-- A URL that does not end in a question mark stays as it is. -/
theorem dropQuestionMarks_eq_self {url : Text} (ends : url.getLast? ≠ some '?') :
    dropQuestionMarks url = url := by
  -- The last character is the first one that would be dropped.
  refine List.rdropWhile_eq_self_iff.mpr fun nonempty mark => ends ?_
  rw [List.getLast?_eq_some_getLast nonempty, of_decide_eq_true mark]

/-- Arguments that are appended to a URL without a fragment are carried behind those of the URL
without question marks at its end. -/
theorem argumentsOf_appendArguments {url : Text} {pairs : List (Text × Text)}
    (whole : '#' ∈ url → pairs = []) :
    argumentsOf (appendArguments url pairs) =
      argumentsOf (if pairs = [] then url else dropQuestionMarks url) ++ pairs := by
  unfold appendArguments
  by_cases none : pairs = []
  · rw [if_pos none, if_pos none, none, List.append_nil]
  · -- What is dropped at the end leaves a part at the start, without a number sign either.
    have kept : '#' ∉ dropQuestionMarks url := fun inside =>
      none (whole ((List.rdropWhile_prefix _ url).subset inside))
    rw [if_neg none, if_neg none]
    exact argumentsOf_append kept pairs

end RelyingParty.Form
