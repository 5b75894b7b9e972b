import RelyingParty.Table
import RelyingParty.Text.Blank

/-! Tags and how one is read from the text that begins with it. -/

namespace RelyingParty.Html

/-- Attributes by lower-case name. -/
abbrev Attributes := Table Text

/-- A tag; the name is in lower case, with a slash before it when the tag closes an element. -/
structure Tag where
  name : Text
  attributes : Attributes
  selfClosing : Bool
  deriving DecidableEq, Repr

/-- The characters of a tag's name after the first. -/
def isNameChar (c : Char) : Bool := c.isAlphanum || c = ':' || c = '_' || c = '.' || c = '-'

/-- The characters of an attribute's name. -/
def isAttributeChar (c : Char) : Bool :=
  !(Text.isBlank c || c = '"' || c = '\'' || c = '=' || c = '/' || c = '>')

/-- The characters of a value without quotes. -/
def isValueChar (c : Char) : Bool := !(Text.isBlank c || c = '>')

/-- A value without quotes, and what follows it. -/
def bareValue? (text : Text) : Option (Text × Text) :=
  let value := text.takeWhile isValueChar
  if value = [] then none else some (value, text.dropWhile isValueChar)

/-- A value in quotes, and what follows it. -/
def quotedValue? : Text → Option (Text × Text)
  | '"' :: rest => Text.splitFirst '"' rest
  | '\'' :: rest => Text.splitFirst '\'' rest
  | _ => none

/-- The text behind an equals sign and the blanks around it. -/
def afterEquals? (text : Text) : Option Text :=
  match text.dropWhile Text.isBlank with
  | '=' :: rest => some (rest.dropWhile Text.isBlank)
  | _ => none

/-- An attribute's value, and what follows it. -/
def attributeValue? (text : Text) : Option (Text × Text) :=
  (afterEquals? text).bind fun value => (quotedValue? value).or (bareValue? value)

theorem afterEquals?_length {text rest : Text} (found : afterEquals? text = some rest) :
    rest.length < text.length := by
  -- The equals sign is read.
  unfold afterEquals? at found
  split at found
  · rename_i tail equals
    have := Text.dropWhile_length_le Text.isBlank text
    have := Text.dropWhile_length_le Text.isBlank tail
    simp at found
    subst found
    rw [equals] at *
    simp at *
    omega
  · simp at found

theorem quotedValue?_length {text value rest : Text}
    (found : quotedValue? text = some (value, rest)) : rest.length < text.length := by
  -- Both quotes are read.
  unfold quotedValue? at found
  split at found
  · have := Text.splitFirst_length found
    simp
    omega
  · have := Text.splitFirst_length found
    simp
    omega
  · simp at found

theorem bareValue?_length {text value rest : Text}
    (found : bareValue? text = some (value, rest)) : rest.length ≤ text.length := by
  -- What is left is a tail.
  unfold bareValue? at found
  simp only at found
  split at found
  · simp at found
  · simp at found
    rw [← found.2]
    exact Text.dropWhile_length_le _ _

theorem attributeValue?_length {text value rest : Text}
    (found : attributeValue? text = some (value, rest)) : rest.length < text.length := by
  -- A value of either kind stands behind an equals sign.
  obtain ⟨start, equals, read⟩ := Option.bind_eq_some_iff.mp found
  have := afterEquals?_length equals
  rcases Option.or_eq_some_iff.mp read with quoted | ⟨_, bare⟩
  · have := quotedValue?_length quoted
    omega
  · have := bareValue?_length bare
    omega

theorem behindName_length {skip : Char → Bool} {text rest : Text} {c : Char}
    (start : text.dropWhile skip = c :: rest) :
    (rest.dropWhile isAttributeChar).length < text.length := by
  -- The name has at least one character.
  have skipped := Text.dropWhile_length_le skip text
  have named := Text.dropWhile_length_le isAttributeChar rest
  rw [start] at skipped
  simp at skipped
  omega

/-- The attributes in the text between a tag's name and its end, in order. -/
def attributePairs (text : Text) : List (Text × Text) :=
  match _start : text.dropWhile fun c => !isAttributeChar c with
  | [] => []
  | c :: rest =>
    let name := Text.asciiLower (c :: rest.takeWhile isAttributeChar)
    match _value : attributeValue? (rest.dropWhile isAttributeChar) with
    | some (value, behind) => (name, value) :: attributePairs behind
    -- An attribute without a value has an empty one.
    | none => (name, []) :: attributePairs (rest.dropWhile isAttributeChar)
termination_by text.length
decreasing_by
  all_goals have := behindName_length _start
  · have := attributeValue?_length _value
    omega
  · omega

/-- Reads the end of a tag behind its last attribute: whether a slash ends it, and what follows. -/
def tagEnd? (text : Text) : Option (Bool × Text) :=
  match text.dropWhile Text.isBlank with
  | '>' :: rest => some (false, rest)
  -- Blanks may stand between the slash and the bracket.
  | '/' :: rest =>
    match rest.dropWhile Text.isBlank with
    | '>' :: rest => some (true, rest)
    | _ => none
  | _ => none

/-- The text from which the end of a tag is read, behind all attributes. A value in quotes is tried
first; when the tag does not end behind it, the same text is tried as a value without quotes. -/
def attributesEnd? (text : Text) : Option Text :=
  match _start : text.dropWhile Text.isBlank with
  | [] => none
  | c :: rest =>
    -- A name begins behind a blank, and never right at the start of the text.
    if isAttributeChar c && Text.isBlank (text.headD c) then
      match _equals : afterEquals? (rest.dropWhile isAttributeChar) with
      | none => attributesEnd? (rest.dropWhile isAttributeChar)
      | some value =>
        match _quoted : quotedValue? value, _bare : bareValue? value with
        | none, none => none
        | none, some (_, behind) => attributesEnd? behind
        | some (_, behind), none => attributesEnd? behind
        -- Both readings are possible here, and they may leave off at the same place.
        | some (_, behind), some (_, behindBare) =>
          match attributesEnd? behind with
          | some tail => some tail
          | none => if behind.length = behindBare.length then none else attributesEnd? behindBare
    else if (tagEnd? text).isSome then some text
    else none
termination_by text.length
decreasing_by
  all_goals have := behindName_length _start
  · omega
  all_goals have := afterEquals?_length _equals
  · have := bareValue?_length _bare
    omega
  · have := quotedValue?_length _quoted
    omega
  · have := quotedValue?_length _quoted
    omega
  · have := bareValue?_length _bare
    omega

theorem attributesEnd?_length {text tail : Text} (found : attributesEnd? text = some tail) :
    tail.length ≤ text.length := by
  -- Every step of the search goes forward.
  fun_induction attributesEnd? text with
  | case1 => simp at found
  | case2 text c rest start _ _ ih =>
    have := behindName_length start
    have := ih found
    omega
  | case3 => simp at found
  | case4 text c rest start _ value equals _ _ _ bare ih =>
    have := behindName_length start
    have := afterEquals?_length equals
    have := bareValue?_length bare
    have := ih found
    omega
  | case5 text c rest start _ value equals _ _ quoted _ ih =>
    have := behindName_length start
    have := afterEquals?_length equals
    have := quotedValue?_length quoted
    have := ih found
    omega
  -- With both readings of a value the search goes on behind the quotes first.
  | case6 text c rest start _ value equals _ _ _ _ quoted _ tail closed ih =>
    have := behindName_length start
    have := afterEquals?_length equals
    have := quotedValue?_length quoted
    have := ih (closed.trans found)
    omega
  | case7 => simp at found
  | case8 text c rest start _ value equals _ _ _ _ _ bare _ _ _ ih =>
    have := behindName_length start
    have := afterEquals?_length equals
    have := bareValue?_length bare
    have := ih found
    omega
  | case9 => simp_all
  | case10 => simp at found

/-- The slash of a closing tag, and the text behind it. -/
def splitSlash : Text → Text × Text
  | '/' :: rest => (['/'], rest)
  | text => ([], text)

/-- Whether a tag begins with this text, its opening angle bracket read. -/
def opensTag (text : Text) : Bool := (splitSlash text).2.head?.any Char.isAlpha

/-- Reads a tag behind its opening angle bracket, and what follows it. -/
def Tag.read? (text : Text) : Option (Tag × Text) :=
  let (slash, named) := splitSlash text
  let body := named.dropWhile isNameChar
  (attributesEnd? body).bind fun tail =>
    (tagEnd? tail).map fun (selfClosing, rest) =>
      -- A closing tag keeps its slash in front of its name.
      ({ name := slash ++ Text.asciiLower (named.takeWhile isNameChar)
         attributes := Table.ofPairs (attributePairs (body.take (body.length - tail.length)))
         selfClosing },
       rest)

theorem tagEnd?_length {text rest : Text} {slash : Bool}
    (found : tagEnd? text = some (slash, rest)) : rest.length < text.length := by
  -- At least the closing bracket is read.
  have skipped := Text.dropWhile_length_le Text.isBlank text
  unfold tagEnd? at found
  split at found
  · rename_i start
    rw [start] at skipped
    simp only [Option.some.injEq, Prod.mk.injEq] at found
    rw [← found.2]
    exact skipped
  · -- Behind a slash there may be blanks again.
    rename_i tail start
    rw [start] at skipped
    have behind := Text.dropWhile_length_le Text.isBlank tail
    split at found
    · rename_i closed
      rw [closed] at behind
      simp_all
      omega
    · simp at found
  · simp at found

theorem splitSlash_length_le (text : Text) : (splitSlash text).2.length ≤ text.length := by
  -- At most the slash is split off.
  unfold splitSlash
  split <;> simp

theorem Tag.read?_length {text rest : Text} {tag : Tag}
    (found : Tag.read? text = some (tag, rest)) : rest.length < text.length := by
  -- What follows the tag is behind its name, its attributes and its end.
  obtain ⟨tail, closed, ended⟩ := Option.bind_eq_some_iff.mp found
  obtain ⟨⟨slash, behind⟩, bracket, same⟩ := Option.map_eq_some_iff.mp ended
  obtain rfl : behind = rest := congrArg Prod.snd same
  have bodyEnd : tail.length ≤ ((splitSlash text).2.dropWhile isNameChar).length :=
    attributesEnd?_length closed
  have := tagEnd?_length bracket
  have := Text.dropWhile_length_le isNameChar (splitSlash text).2
  have := splitSlash_length_le text
  omega

end RelyingParty.Html
