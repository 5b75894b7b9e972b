import RelyingParty.Html.Match
import RelyingParty.Proofs.Html.Tag

/-! The groups that are accessed took part in the match, and the tag that is built of them is the
one that is read. -/

namespace RelyingParty.Html

/-- Every attribute that is matched has a name, and the attributes are those that are read. -/
theorem mapM_attributeMatches (text : Text) :
    (attributeMatches text).mapM attribute? = some (attributePairs text) := by
  -- By induction on the matches, with a value or without one.
  fun_induction attributeMatches text with
  | case1 text start =>
    rw [attributePairs]
    split
    · rfl
    · rename_i other
      cases start.symm.trans other
  | case2 text c rest start name groups behind value ih =>
    rw [List.mapM_cons, ih, attributePairs_of_start start, attributeValue?_eq _ _ (some name),
      value]
    rfl
  | case3 text c rest start name value ih =>
    rw [List.mapM_cons, ih, attributePairs_of_start start, attributeValue?_eq _ none none, value]
    rfl

/-- Behind its bracket a tag is read where one is matched. -/
theorem tagMatch?_eq_none_iff {c : Char} {rest : Text} :
    tagMatch? (c :: rest) = none ↔ Tag.read? rest = none := by
  simp [tagMatch?, Tag.read?, Option.bind_eq_none_iff, Option.map_eq_none_iff]

/-- What stands in front of what is left of a text. -/
theorem upTo_append (front back : Text) : upTo back (front ++ back) = front := by
  rw [upTo, List.length_append, Nat.add_sub_cancel, List.take_left]

/-- The groups of a tag make the tag that is read, and the whole match is what stands in front of
what is left. -/
theorem exists_tagMatch? {c : Char} {rest behind : Text} {tag : Tag}
    (read : Tag.read? rest = some (tag, behind)) :
    ∃ groups front, tagMatch? (c :: rest) = some groups ∧ groups.text? 0 = some (c :: front) ∧
      rest = front ++ behind ∧ buildTag? groups = some tag := by
  -- The reader and the expression find the same end of the tag.
  obtain ⟨tail, slash, closed, ends, rfl⟩ := Tag.read?_eq_some_iff.mp read
  obtain ⟨front, bracket⟩ := Tag.exists_of_read? read
  have whole : rest = (front ++ ['>']) ++ behind := by simp [bracket]
  have found : tagMatch? (c :: rest) = some [some (upTo behind (c :: rest)),
      some (splitSlash rest).1, some ((splitSlash rest).2.takeWhile isNameChar),
      some (upTo tail (behindTagName rest)), some (if slash then ['/'] else [])] :=
    Option.bind_eq_some_iff.mpr
      ⟨tail, closed, Option.map_eq_some_iff.mpr ⟨(slash, behind), ends, rfl⟩⟩
  refine ⟨_, front ++ ['>'], found, ?_, whole, ?_⟩
  · have taken := upTo_append (c :: (front ++ ['>'])) behind
    rw [List.cons_append, ← whole] at taken
    exact congrArg some taken
  · -- What is matched of the attributes is read as the attributes of the tag.
    have attributes := mapM_attributeMatches (upTo tail (behindTagName rest))
    change ((attributeMatches (upTo tail (behindTagName rest))).mapM attribute?).bind _ = _
    rw [attributes]
    cases slash <;> rfl

end RelyingParty.Html
