import RelyingParty.Html.Tag
import RelyingParty.Proofs.Text

/-! The attributes of a tag are read the same whatever follows the tag, as long as they end in
it. -/

namespace RelyingParty.Html

/-- The bracket that ends a tag is no blank. -/
theorem isBlank_bracket : Text.isBlank '>' = false := by decide

/-- The bracket that ends a tag ends a name. -/
theorem isAttributeChar_bracket : isAttributeChar '>' = false := by decide

/-- The bracket that ends a tag ends a value without quotes. -/
theorem isValueChar_bracket : isValueChar '>' = false := by decide

/-- The text behind the name of the attribute that a text begins with, blanks before the name. -/
def behindName? (text : Text) : Option Text :=
  match text.dropWhile Text.isBlank with
  | [] => none
  | c :: rest =>
    -- A name is read only behind a blank.
    if isAttributeChar c && Text.isBlank (text.headD c) then some (rest.dropWhile isAttributeChar)
    else none

/-- A value in quotes stands between two quotes of a kind, and holds none of that kind. -/
theorem quotedValue?_eq_some_iff {text value rest : Text} :
    quotedValue? text = some (value, rest) ↔
      ∃ quote, (quote = '"' ∨ quote = '\'') ∧ text = quote :: (value ++ quote :: rest) ∧
        quote ∉ value := by
  -- The value ends at the next quote of the kind that it began with.
  unfold quotedValue?
  split
  · rw [Text.splitFirst_eq_some_iff]
    simp
  · rw [Text.splitFirst_eq_some_iff]
    simp
  · rename_i double single
    constructor
    · intro read
      cases read
    · rintro ⟨quote, rfl | rfl, rfl, _⟩
      · exact absurd rfl (double _)
      · exact absurd rfl (single _)

/-- A value in quotes stays one, whatever follows. -/
theorem quotedValue?_append {text value rest : Text}
    (read : quotedValue? text = some (value, rest)) (more : Text) :
    quotedValue? (text ++ more) = some (value, rest ++ more) := by
  -- Nothing behind the closing quote takes part in it.
  obtain ⟨quote, kind, rfl, absent⟩ := quotedValue?_eq_some_iff.mp read
  exact quotedValue?_eq_some_iff.mpr ⟨quote, kind, by simp, absent⟩

/-- A value in quotes that ends in front of all that follows a text is one of the text. -/
theorem exists_quotedValue?_of_append {text more value rest : Text}
    (read : quotedValue? (text ++ more) = some (value, rest)) (front : more.length < rest.length) :
    ∃ kept, rest = kept ++ more ∧ quotedValue? text = some (value, kept) := by
  obtain ⟨quote, kind, whole, absent⟩ := quotedValue?_eq_some_iff.mp read
  cases text with
  | nil =>
    -- Nothing of the text is read, so that all comes from what follows.
    have lengths := congrArg List.length whole
    simp at lengths
    omega
  | cons c tail =>
    obtain ⟨rfl, behind⟩ := List.cons.inj whole
    have found : Text.splitFirst c (tail ++ more) = some (value, rest) :=
      Text.splitFirst_eq_some_iff.mpr ⟨behind, absent⟩
    obtain ⟨kept, rfl, own⟩ := Text.exists_splitFirst_of_append found (Nat.le_of_lt front)
    obtain ⟨rfl, _⟩ := Text.splitFirst_eq_some_iff.mp own
    exact ⟨kept, rfl, quotedValue?_eq_some_iff.mpr ⟨c, kind, rfl, absent⟩⟩

/-- What is behind a value in quotes is the end of the text. -/
theorem quotedValue?_suffix {text value rest : Text}
    (read : quotedValue? text = some (value, rest)) : rest <:+ text := by
  -- Quote, value and quote are what stands in front.
  obtain ⟨quote, _, rfl, _⟩ := quotedValue?_eq_some_iff.mp read
  exact ⟨quote :: (value ++ [quote]), by simp⟩

/-- What is behind a value without quotes is the end of the text. -/
theorem bareValue?_suffix {text value rest : Text}
    (read : bareValue? text = some (value, rest)) : rest <:+ text := by
  -- The rest is what is left when the value has been dropped.
  unfold bareValue? at read
  dsimp only at read
  split at read
  · cases read
  · cases read
    exact List.dropWhile_suffix isValueChar

/-- What is behind an equals sign is the end of the text. -/
theorem afterEquals?_suffix {text rest : Text} (read : afterEquals? text = some rest) :
    rest <:+ text := by
  -- Blanks, the sign and more blanks are dropped.
  unfold afterEquals? at read
  split at read
  · rename_i tail equals
    cases read
    have behind : '=' :: tail <:+ text := equals ▸ List.dropWhile_suffix Text.isBlank
    exact (List.dropWhile_suffix _).trans ((List.suffix_cons _ _).trans behind)
  · cases read

/-- What is behind the name of an attribute is a shorter end of the text. -/
theorem behindName?_suffix {text rest : Text} (read : behindName? text = some rest) :
    rest <:+ text ∧ rest.length < text.length := by
  -- Blanks are dropped, and at least one character of a name.
  unfold behindName? at read
  split at read
  · cases read
  · rename_i c tail start
    split at read
    · cases read
      have behind : c :: tail <:+ text := start ▸ List.dropWhile_suffix Text.isBlank
      exact ⟨(List.dropWhile_suffix _).trans ((List.suffix_cons _ _).trans behind),
        behindName_length start⟩
    · cases read

/-- Reads the end of a tag behind an attribute's value, which is a text in quotes if the tag can end
behind that, and else a text without quotes. -/
def valueEnd? (text : Text) : Option Text :=
  ((quotedValue? text).bind fun value => attributesEnd? value.2).or
    ((bareValue? text).bind fun value => attributesEnd? value.2)

/-- The end of a tag stands behind the attribute that the text begins with, with its value if it has
one, or right here when it begins with none. -/
theorem attributesEnd?_eq (text : Text) :
    attributesEnd? text =
      match behindName? text with
      | some named =>
        match afterEquals? named with
        | some value => valueEnd? value
        | none => attributesEnd? named
      | none => if (tagEnd? text).isSome then some text else none := by
  rw [attributesEnd?]
  -- The same cases are taken in the order of the function, and each of them is one of the right
  -- side.
  split
  · rename_i blank
    simp [behindName?, tagEnd?, blank]
  · rename_i c rest start
    split
    · rename_i starts
      have named : behindName? text = some (rest.dropWhile isAttributeChar) := by
        simp only [behindName?, start, if_pos starts]
      rw [named]
      split
      · rename_i equals
        simp only [equals]
      · rename_i value equals
        simp only [equals, valueEnd?]
        split
        · rename_i quoted bare
          simp [quoted, bare]
        · rename_i quoted bare
          simp [quoted, bare]
        · rename_i quoted bare
          simp [quoted, bare]
        · rename_i behind _ behindBare quoted bare
          simp only [quoted, bare, Option.bind_some]
          cases closed : attributesEnd? behind with
          | some tail => rfl
          | none =>
            -- Two ends of one text are the same when they are equally long.
            by_cases lengths : behind.length = behindBare.length
            · have same : behind = behindBare :=
                (List.suffix_of_suffix_length_le (quotedValue?_suffix quoted)
                  (bareValue?_suffix bare) (Nat.le_of_eq lengths)).eq_of_length lengths
              simp [← same, closed]
            · simp [lengths]
    · -- Nothing begins here, so the end of the tag has to.
      rename_i other
      have unnamed : behindName? text = none := by
        simp only [behindName?, start, if_neg other]
      rw [unnamed]

/-- A statement about texts that attributes begin holds when it holds where no attribute begins, and
passes from what is behind an attribute to what is in front of it. -/
theorem attributes_induction {motive : Text → Prop}
    (here : ∀ text, behindName? text = none → motive text)
    (named : ∀ text rest, behindName? text = some rest → afterEquals? rest = none → motive rest →
      motive text)
    (valued : ∀ text rest value, behindName? text = some rest → afterEquals? rest = some value →
      (∀ content behind, quotedValue? value = some (content, behind) → motive behind) →
      (∀ content behind, bareValue? value = some (content, behind) → motive behind) →
      motive text) (text : Text) : motive text := by
  -- Every attribute is at least one character.
  induction length : text.length using Nat.strongRecOn generalizing text with
  | ind n ih =>
    subst length
    cases name : behindName? text with
    | none => exact here text name
    | some rest =>
      have shorter := (behindName?_suffix name).2
      cases equals : afterEquals? rest with
      | none => exact named text rest name equals (ih _ shorter rest rfl)
      | some value =>
        have shorterValue := afterEquals?_length equals
        refine valued text rest value name equals ?_ ?_
        · -- What is behind a value is shorter again, however it is read.
          intro content behind read
          have shorterBehind := quotedValue?_length read
          exact ih _ (by omega) behind rfl
        · intro content behind read
          have shorterBehind := bareValue?_length read
          exact ih _ (by omega) behind rfl

/-- The end of a tag behind its attributes is one that can be read, and an end of the text. -/
theorem attributesEnd?_sound {text tail : Text} (found : attributesEnd? text = some tail) :
    tail <:+ text ∧ (tagEnd? tail).isSome = true := by
  -- By induction on the attributes: what is found behind one of them is found behind the text.
  induction text using attributes_induction with
  | here text name =>
    simp only [attributesEnd?_eq text, name] at found
    split at found
    · rename_i ends
      cases found
      exact ⟨List.suffix_rfl, ends⟩
    · cases found
  | named text rest name equals ih =>
    simp only [attributesEnd?_eq text, name, equals] at found
    exact (ih found).imp_left fun under => under.trans (behindName?_suffix name).1
  | valued text rest value name equals quoted bare =>
    simp only [attributesEnd?_eq text, name, equals] at found
    have inner := (afterEquals?_suffix equals).trans (behindName?_suffix name).1
    -- The value is in quotes, or else it is read without them.
    rcases Option.or_eq_some_iff.mp found with first | ⟨_, second⟩
    · obtain ⟨⟨content, behind⟩, read, closed⟩ := Option.bind_eq_some_iff.mp first
      exact (quoted content behind read closed).imp_left fun under =>
        (under.trans (quotedValue?_suffix read)).trans inner
    · obtain ⟨⟨content, behind⟩, read, closed⟩ := Option.bind_eq_some_iff.mp second
      exact (bare content behind read closed).imp_left fun under =>
        (under.trans (bareValue?_suffix read)).trans inner

/-- The end of a tag behind its attributes is an end of the text. -/
theorem attributesEnd?_suffix {text tail : Text} (found : attributesEnd? text = some tail) :
    tail <:+ text := (attributesEnd?_sound found).1

section Append

variable {text : Text} (closes : '>' ∈ text)
include closes

/-- Behind the blanks in front of a bracket stands the bracket, or another character in front of
it. -/
theorem exists_behind_blanks :
    ∃ c rest, text.dropWhile Text.isBlank = c :: rest ∧ (c ≠ '>' → '>' ∈ rest) := by
  -- A bracket is no blank, so it is still there.
  have left : '>' ∈ text.dropWhile Text.isBlank := Text.mem_dropWhile_of_mem isBlank_bracket closes
  cases start : text.dropWhile Text.isBlank with
  | nil => simp [start] at left
  | cons c rest =>
    rw [start] at left
    exact ⟨c, rest, rfl, fun other => (List.mem_cons.mp left).resolve_left (Ne.symm other)⟩

/-- A bracket stands behind the name of the attribute in front of it. -/
theorem mem_behindName? {rest : Text} (name : behindName? text = some rest) : '>' ∈ rest := by
  obtain ⟨c, tail, start, later⟩ := exists_behind_blanks closes
  simp only [behindName?, start, Option.ite_none_right_eq_some] at name
  obtain ⟨starts, same⟩ := name
  cases same
  -- The name begins with another character than the bracket.
  have other : c ≠ '>' := by
    rintro rfl
    simp [isAttributeChar_bracket] at starts
  exact Text.mem_dropWhile_of_mem isAttributeChar_bracket (later other)

/-- A bracket stands behind the equals sign in front of it. -/
theorem mem_afterEquals? {value : Text} (equals : afterEquals? text = some value) :
    '>' ∈ value := by
  -- The sign itself is no bracket.
  obtain ⟨c, tail, start, later⟩ := exists_behind_blanks closes
  unfold afterEquals? at equals
  split at equals
  · rename_i other
    cases start.symm.trans other
    cases equals
    exact Text.mem_dropWhile_of_mem isBlank_bracket (later (by decide))
  · cases equals

/-- A bracket stands behind the value without quotes in front of it. -/
theorem mem_bareValue? {value rest : Text} (read : bareValue? text = some (value, rest)) :
    '>' ∈ rest := by
  -- Such a value has no bracket in it.
  unfold bareValue? at read
  dsimp only at read
  split at read
  · cases read
  · cases read
    exact Text.mem_dropWhile_of_mem isValueChar_bracket closes

variable (more : Text)

/-- An attribute in front of a bracket has the same name, whatever follows the bracket. -/
theorem behindName?_append : behindName? (text ++ more) = (behindName? text).map (· ++ more) := by
  obtain ⟨c, rest, start, later⟩ := exists_behind_blanks closes
  -- The first characters of both texts are the same, as there is one.
  have first : (text ++ more).headD c = text.headD c := by
    cases text with
    | nil => cases closes
    | cons => rfl
  simp only [behindName?, start, Text.dropWhile_append_of_eq_cons start more, first]
  split
  · rename_i starts
    have other : c ≠ '>' := by
      rintro rfl
      simp [isAttributeChar_bracket] at starts
    simp [Text.dropWhile_append_of_mem isAttributeChar_bracket (later other)]
  · rfl

/-- An equals sign in front of a bracket is the same, whatever follows the bracket. -/
theorem afterEquals?_append :
    afterEquals? (text ++ more) = (afterEquals? text).map (· ++ more) := by
  -- The first character that is no blank decides, and it stands in front of what follows.
  obtain ⟨c, rest, start, later⟩ := exists_behind_blanks closes
  simp only [afterEquals?, start, Text.dropWhile_append_of_eq_cons start more]
  by_cases equals : c = '='
  · subst equals
    simp [Text.dropWhile_append_of_mem isBlank_bracket (later (by decide))]
  · simp [equals]

/-- A value without quotes in front of a bracket is the same, whatever follows the bracket. -/
theorem bareValue?_append :
    bareValue? (text ++ more) = (bareValue? text).map fun value => (value.1, value.2 ++ more) := by
  -- The value ends at the bracket at the latest.
  unfold bareValue?
  rw [Text.dropWhile_append_of_mem isValueChar_bracket closes,
    Text.takeWhile_append_of_mem isValueChar_bracket closes]
  dsimp only
  split
  · rfl
  · rfl

/-- The end of a tag is read the same up to a bracket, whatever follows the bracket. -/
theorem tagEnd?_append :
    tagEnd? (text ++ more) = (tagEnd? text).map fun read => (read.1, read.2 ++ more) := by
  -- The bracket is the next character, or a slash with blanks stands between.
  obtain ⟨c, rest, start, later⟩ := exists_behind_blanks closes
  simp only [tagEnd?, start, Text.dropWhile_append_of_eq_cons start more]
  by_cases bracket : c = '>'
  · subst bracket
    rfl
  -- Behind a slash the bracket may follow, and any other character is no end.
  by_cases slash : c = '/'
  · subst slash
    obtain ⟨d, tail, behind, _⟩ := exists_behind_blanks (later bracket)
    simp only [behind, Text.dropWhile_append_of_eq_cons behind more]
    by_cases bracket : d = '>'
    · subst bracket
      rfl
    · simp [bracket]
  · simp [bracket, slash]

end Append

/-- The end of a tag is its bracket with what stands before it. -/
theorem exists_of_tagEnd? {text rest : Text} {slash : Bool}
    (read : tagEnd? text = some (slash, rest)) : ∃ front, text = front ++ '>' :: rest := by
  -- Only blanks and a slash may stand in front of the bracket.
  have whole := List.takeWhile_append_dropWhile (p := Text.isBlank) (l := text)
  unfold tagEnd? at read
  split at read
  · rename_i start
    cases read
    rw [start] at whole
    exact ⟨_, whole.symm⟩
  · -- What stands in front of the bracket are blanks around a slash.
    rename_i tail start
    have inner := List.takeWhile_append_dropWhile (p := Text.isBlank) (l := tail)
    split at read
    · rename_i behind
      cases read
      rw [behind] at inner
      rw [start, ← inner] at whole
      exact ⟨text.takeWhile Text.isBlank ++ '/' :: tail.takeWhile Text.isBlank, by simp [whole]⟩
    · cases read
  · cases read

/-- A text that has the end of a tag has its bracket. -/
theorem mem_of_attributesEnd? {text tail : Text} (found : attributesEnd? text = some tail) :
    '>' ∈ text := by
  -- The tag ends with it, somewhere in the text.
  obtain ⟨⟨slash, rest⟩, read⟩ :=
    Option.isSome_iff_exists.mp (attributesEnd?_sound found).2
  obtain ⟨front, rfl⟩ := exists_of_tagEnd? read
  exact (attributesEnd?_suffix found).subset (by simp)

/-- A text that has the end of a tag has one, whatever follows it. -/
theorem isSome_attributesEnd?_append {text tail : Text} (found : attributesEnd? text = some tail)
    (more : Text) : (attributesEnd? (text ++ more)).isSome = true := by
  -- By induction on the attributes, which are read the same in the longer text.
  induction text using attributes_induction with
  | here text name =>
    have closes := mem_of_attributesEnd? found
    simp only [attributesEnd?_eq text, name] at found
    split at found
    · rename_i ends
      simp [attributesEnd?_eq, behindName?_append closes, name, tagEnd?_append closes, ends]
    · cases found
  | named text rest name equals ih =>
    have closes := mem_of_attributesEnd? found
    simp only [attributesEnd?_eq text, name, equals] at found
    have later := mem_behindName? closes name
    simpa [attributesEnd?_eq (text ++ more), behindName?_append closes, name,
      afterEquals?_append later, equals] using ih found
  | valued text rest value name equals quoted bare =>
    have closes := mem_of_attributesEnd? found
    simp only [attributesEnd?_eq text, name, equals] at found
    have later := mem_behindName? closes name
    have last := mem_afterEquals? later equals
    simp only [attributesEnd?_eq (text ++ more), behindName?_append closes, name,
      afterEquals?_append later, equals, Option.map_some, valueEnd?, Option.isSome_or]
    -- A value that was tried with success is tried again, with or without quotes.
    rcases Option.or_eq_some_iff.mp found with first | ⟨_, second⟩
    · obtain ⟨⟨content, behind⟩, read, closed⟩ := Option.bind_eq_some_iff.mp first
      simp [quotedValue?_append read, quoted content behind read closed]
    · obtain ⟨⟨content, behind⟩, read, closed⟩ := Option.bind_eq_some_iff.mp second
      simp [bareValue?_append last, read, bare content behind read closed]

/-- The end of a tag that stands in front of all that follows a text is that of the text. -/
theorem attributesEnd?_of_append {text tail more : Text}
    (found : attributesEnd? (text ++ more) = some (tail ++ more)) (closes : '>' ∈ tail) :
    attributesEnd? text = some tail := by
  have inside : '>' ∈ text :=
    (List.suffix_append_self_iff.mp (attributesEnd?_suffix found)).subset closes
  -- The attributes in front of the bracket are read the same in both texts.
  induction text using attributes_induction with
  | here text name =>
    simp only [attributesEnd?_eq (text ++ more), behindName?_append inside, name, Option.map_none,
      tagEnd?_append inside, Option.isSome_map] at found
    rw [attributesEnd?_eq, name]
    split at found
    · rename_i ends
      cases List.append_cancel_right (Option.some.inj found)
      exact if_pos ends
    · cases found
  -- An attribute without a value is passed alike in both texts.
  | named text rest name equals ih =>
    have later := mem_behindName? inside name
    simp only [attributesEnd?_eq (text ++ more), behindName?_append inside, name, Option.map_some,
      afterEquals?_append later, equals, Option.map_none] at found
    simp only [attributesEnd?_eq text, name, equals]
    exact ih found later
  | valued text rest value name equals quoted bare =>
    have later := mem_behindName? inside name
    have last := mem_afterEquals? later equals
    simp only [attributesEnd?_eq (text ++ more), behindName?_append inside, name, Option.map_some,
      afterEquals?_append later, equals, valueEnd?] at found
    simp only [attributesEnd?_eq text, name, equals, valueEnd?]
    rcases Option.or_eq_some_iff.mp found with first | ⟨failed, second⟩
    · obtain ⟨⟨content, behind⟩, read, closed⟩ := Option.bind_eq_some_iff.mp first
      -- What the tag ends behind is longer than what follows the text.
      have longer := (attributesEnd?_suffix closed).length_le
      have positive := List.length_pos_of_mem closes
      simp only [List.length_append] at longer
      obtain ⟨kept, rfl, own⟩ := exists_quotedValue?_of_append read (by omega)
      have kept_closes :=
        (List.suffix_append_self_iff.mp (attributesEnd?_suffix closed)).subset closes
      -- The shorter text reads the same value, and ends behind it by induction.
      simp [own, quoted content kept own closed kept_closes]
    · obtain ⟨⟨content, behind⟩, read, closed⟩ := Option.bind_eq_some_iff.mp second
      rw [bareValue?_append last] at read
      obtain ⟨⟨_, kept⟩, own, same⟩ := Option.map_eq_some_iff.mp read
      cases same
      -- With quotes the tag would end for the longer text if it did for the shorter one.
      have unquoted : ((quotedValue? value).bind fun value => attributesEnd? value.2) = none := by
        refine Option.bind_eq_none_iff.mpr ?_
        rintro ⟨content, behind⟩ own
        cases closed : attributesEnd? behind with
        | none => rfl
        | some tail =>
          have again := isSome_attributesEnd?_append closed more
          rw [quotedValue?_append own, Option.bind_some] at failed
          simp [failed] at again
      simp [unquoted, own, bare _ kept own closed (mem_bareValue? last own)]

/-- A name is the first attribute, with the value behind it when there is one. -/
theorem attributePairs_of_start {text rest : Text} {c : Char}
    (start : (text.dropWhile fun c => !isAttributeChar c) = c :: rest) :
    attributePairs text =
      match attributeValue? (rest.dropWhile isAttributeChar) with
      | some (value, behind) =>
        (Text.asciiLower (c :: rest.takeWhile isAttributeChar), value) :: attributePairs behind
      | none =>
        (Text.asciiLower (c :: rest.takeWhile isAttributeChar), []) ::
          attributePairs (rest.dropWhile isAttributeChar) := by
  -- What is not part of a name is dropped first, and the two values are told apart as the list is.
  rw [attributePairs]
  split
  · rename_i other
    cases start.symm.trans other
  · rename_i other
    cases start.symm.trans other
    split
    · rename_i found
      simp only [found]
    · rename_i missing
      simp only [missing]

end RelyingParty.Html
