import RelyingParty.Html.Tag

/-! Tags and attributes as they are matched, group by group. -/

namespace RelyingParty.Html

/-- The groups of a match, of which the first is the whole match. A group that took no part in it
has no text. -/
abbrev Groups := List (Option Text)

/-- The text of a group, when it took part in the match. -/
def Groups.text? (groups : Groups) (i : Nat) : Option Text := groups[i]?.join

/-- The text in front of what is left of it. -/
def upTo (rest text : Text) : Text := text.take (text.length - rest.length)

/-- The match of a tag: its slash, its name, the text of its attributes and the slash at its end. -/
def tagMatch? (text : Text) : Option Groups :=
  let (slash, named) := splitSlash (text.drop 1)
  let body := named.dropWhile isNameChar
  (attributesEnd? body).bind fun tail =>
    (tagEnd? tail).map fun (selfClosing, rest) =>
      -- The first group is the whole match, and the others are in the order of the expression.
      [some (upTo rest text), some slash, some (named.takeWhile isNameChar), some (upTo tail body),
        some (if selfClosing then ['/'] else [])]

/-- Where a tag is matched, one is read behind its bracket, and the whole match is in front of what
is left. -/
theorem exists_read?_of_tagMatch? {text : Text} {groups : Groups}
    (found : tagMatch? text = some groups) :
    ∃ tag rest, Tag.read? (text.drop 1) = some (tag, rest) ∧
      groups.text? 0 = some (upTo rest text) := by
  -- Both look for the end of the attributes, and then for the bracket.
  obtain ⟨tail, closed, ended⟩ := Option.bind_eq_some_iff.mp found
  obtain ⟨⟨slash, rest⟩, bracket, rfl⟩ := Option.map_eq_some_iff.mp ended
  exact ⟨_, rest, Option.bind_eq_some_iff.mpr
    ⟨tail, closed, Option.map_eq_some_iff.mpr ⟨(slash, rest), bracket, rfl⟩⟩, rfl⟩

/-- A match of a tag is not empty. -/
theorem ne_nil_of_tagMatch? {text whole : Text} {groups : Groups}
    (found : tagMatch? text = some groups) (first : groups.text? 0 = some whole) :
    whole ≠ [] := by
  obtain ⟨tag, rest, read, same⟩ := exists_read?_of_tagMatch? found
  obtain rfl : upTo rest text = whole := Option.some.inj (same.symm.trans first)
  -- Reading takes characters, and all of them are in the match.
  have shorter := Tag.read?_length read
  intro empty
  have none_taken := congrArg List.length empty
  simp only [upTo, List.length_take, List.length_drop, List.length_nil] at none_taken shorter
  omega

/-- The groups of a value, of which there is one for each way to write it, and what follows it. -/
def valueMatch? (text : Text) : Option (Groups × Text) :=
  (afterEquals? text).bind fun value =>
    match quotedValue? value with
    | some (read, rest) =>
      -- Double quotes, single quotes and no quotes have a group each.
      some (if value.head? = some '"' then [some read, none, none] else [none, some read, none],
        rest)
    | none => (bareValue? value).map fun (read, rest) => ([none, none, some read], rest)

/-- The value of an attribute that is matched, empty when it has none. -/
def Groups.value (groups : Groups) : Text :=
  (((groups.text? 2).or (groups.text? 3)).or (groups.text? 4)).getD []

/-- A value is read where one is matched: that of the group that took part. -/
theorem attributeValue?_eq (text : Text) (whole name : Option Text) :
    attributeValue? text = (valueMatch? text).map fun found =>
      (Groups.value (whole :: name :: found.1), found.2) := by
  unfold attributeValue? valueMatch?
  cases afterEquals? text with
  | none => rfl
  | some value =>
    simp only [Option.bind_some]
    -- A value in quotes is in the group of its quote, and a bare one in the last group.
    cases quotedValue? value with
    | some read =>
      by_cases double : value.head? = some '"'
      · -- Each case computes, once the quote is known.
        simp only [if_pos double]
        rfl
      · simp only [if_neg double]
        rfl
    | none =>
      cases bareValue? value with
      | none => rfl
      | some read => rfl

/-- The matches of attributes in the text between a tag's name and its end: the name and the value
of each. -/
def attributeMatches (text : Text) : List Groups :=
  match _start : text.dropWhile fun c => !isAttributeChar c with
  | [] => []
  | c :: rest =>
    let name := c :: rest.takeWhile isAttributeChar
    match _value : valueMatch? (rest.dropWhile isAttributeChar) with
    | some (groups, behind) =>
      (some (upTo behind (c :: rest)) :: some name :: groups) :: attributeMatches behind
    -- An attribute without a value has a name alone.
    | none =>
      [some name, some name, none, none, none] ::
        attributeMatches (rest.dropWhile isAttributeChar)
termination_by text.length
decreasing_by
  all_goals have := behindName_length _start
  · have read := attributeValue?_eq (rest.dropWhile isAttributeChar) none none
    rw [_value, Option.map_some] at read
    have : behind.length < _ := attributeValue?_length read
    omega
  · omega

/-- The name and the value of an attribute that is matched. -/
def attribute? (groups : Groups) : Option (Text × Text) :=
  (groups.text? 1).map fun name => (Text.asciiLower name, groups.value)

/-- The tag that is matched. -/
def buildTag? (groups : Groups) : Option Tag := do
  let slash ← groups.text? 1
  let name ← groups.text? 2
  let attributes ← (attributeMatches (← groups.text? 3)).mapM attribute?
  let ending ← groups.text? 4
  return ⟨slash ++ Text.asciiLower name, Table.ofPairs attributes, ending ≠ []⟩

end RelyingParty.Html
