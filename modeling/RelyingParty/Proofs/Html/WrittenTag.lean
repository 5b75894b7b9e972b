import RelyingParty.Proofs.Html.Tag
import RelyingParty.Proofs.Text.Casing
import RelyingParty.Proofs.Table

/-! A tag that is written with its attributes in quotes is read back as it was written, with its
names in lower case. -/

namespace RelyingParty.Html

/-- The characters that the name of an attribute may be written with. -/
def isWrittenChar (c : Char) : Bool := !(Text.isBlank c || "\"'=/<>".toList.contains c)

/-- Whether an attribute may be written with a name. -/
def IsAttributeName (name : Text) : Prop := name ≠ [] ∧ ∀ c ∈ name, isWrittenChar c = true

/-- A tag as it is written, without the brackets. -/
structure WrittenTag where
  closing : Bool
  name : Text
  attributes : List (Text × Text)
  /-- The blanks in front of the end of the tag. -/
  space : Text
  selfClosing : Bool
  starts : name.head?.any Char.isAlpha = true
  named : ∀ c ∈ name, isNameChar c = true
  -- A tag whose name begins so could be taken for a script element.
  visible : ¬"script".toList <+: Text.asciiLower name
  attributeNames : ∀ pair ∈ attributes, IsAttributeName pair.1
  -- Values stand in double quotes.
  values : ∀ pair ∈ attributes, '"' ∉ pair.2 ∧ '<' ∉ pair.2
  distinct : (attributes.map fun pair => Text.asciiLower pair.1).Nodup
  blank : ∀ c ∈ space, Text.isBlank c = true

/-- A slash, or nothing. -/
def slashIf (present : Bool) : Text := if present then ['/'] else []

/-- An attribute as it is written, with the blank in front of it. -/
def writeAttribute (pair : Text × Text) : Text :=
  ' ' :: (pair.1 ++ '=' :: '"' :: (pair.2 ++ ['"']))

namespace WrittenTag

/-- What is written behind the attributes of a tag. -/
def ending (written : WrittenTag) : Text := written.space ++ (slashIf written.selfClosing ++ ['>'])

/-- What is written behind the opening bracket of a tag. -/
def content (written : WrittenTag) : Text :=
  slashIf written.closing ++
    (written.name ++ (written.attributes.flatMap writeAttribute ++ written.ending))

/-- The tag that is reported of what is written. -/
def tag (written : WrittenTag) : Tag where
  name := slashIf written.closing ++ Text.asciiLower written.name
  attributes := Table.ofPairs
    (written.attributes.map fun pair => (Text.asciiLower pair.1, pair.2))
  selfClosing := written.selfClosing

end WrittenTag

/-- A character of a written name is no blank and none of the marks around a name. -/
theorem isWrittenChar_iff {c : Char} :
    isWrittenChar c = true ↔ Text.isBlank c = false ∧ c ∉ "\"'=/<>".toList := by
  simp [isWrittenChar]

/-- The characters of a written name are those that are read as a name. -/
theorem IsAttributeName.isAttributeChar {name : Text} (valid : IsAttributeName name) :
    ∀ c ∈ name, isAttributeChar c = true := by
  -- What may be written in a name excludes all that ends one.
  intro c inside
  obtain ⟨noBlank, others⟩ := isWrittenChar_iff.mp (valid.2 c inside)
  simp only [String.reduceToList, List.mem_cons, List.not_mem_nil, or_false, not_or] at others
  simp [Html.isAttributeChar, noBlank, others]

/-- The blank that is written is one. -/
theorem isBlank_space : Text.isBlank ' ' = true := by decide

/-- Whether a character ends the name of a written tag. -/
def endsName (c : Char) : Bool := Text.isBlank c || c = '/' || c = '>'

/-- What ends the name of a tag is no character of it. -/
theorem isNameChar_of_endsName {c : Char} (ends : endsName c = true) : isNameChar c = false := by
  by_cases ascii : c.toNat < 128
  · have tried : ∀ n < 128, endsName (Char.ofNat n) = true → isNameChar (Char.ofNat n) = false := by
      decide +kernel
    have own := tried c.toNat ascii
    rw [Char.ofNat_toNat] at own
    exact own ends
  · -- Letters, digits and the four other characters are ASCII characters.
    have letter : c.isAlphanum = false :=
      Bool.eq_false_iff.mpr fun inside => ascii (Text.toNat_lt_of_isAlphanum inside)
    have other : ∀ mark : Char, mark.toNat < 128 → c ≠ mark := by
      rintro mark small rfl
      exact ascii small
    simp [isNameChar, letter, other ':' (by decide), other '_' (by decide), other '.' (by decide),
      other '-' (by decide)]

/-- A quoted value stands right behind its equals sign. -/
theorem afterEquals?_written (value rest : Text) :
    afterEquals? ('=' :: '"' :: (value ++ '"' :: rest)) = some ('"' :: (value ++ '"' :: rest)) :=
  rfl

/-- A quoted value ends at the next quote. -/
theorem quotedValue?_written {value : Text} (rest : Text) (absent : '"' ∉ value) :
    quotedValue? ('"' :: (value ++ '"' :: rest)) = some (value, rest) :=
  quotedValue?_eq_some_iff.mpr ⟨'"', .inl rfl, rfl, absent⟩

section Attributes

variable {name value : Text} (valid : IsAttributeName name) (rest : Text)
include valid

/-- A written name ends at its equals sign. -/
theorem IsAttributeName.span :
    (name ++ '=' :: rest).takeWhile Html.isAttributeChar = name ∧
      (name ++ '=' :: rest).dropWhile Html.isAttributeChar = '=' :: rest := by
  -- The equals sign is no character of a name.
  refine Text.span_append valid.isAttributeChar ?_
  intro c first
  cases first
  decide

/-- The name of a written attribute is read in front of its equals sign. -/
theorem behindName?_writeAttribute :
    behindName? (writeAttribute (name, value) ++ rest) =
      some ('=' :: '"' :: (value ++ '"' :: rest)) := by
  -- A blank stands in front, and the name has a first character.
  cases name with
  | nil => exact absurd rfl valid.1
  | cons c name =>
    have taken := (valid.span ('"' :: (value ++ '"' :: rest))).2
    have first := valid.isAttributeChar c (by simp)
    have noBlank := (isWrittenChar_iff.mp (valid.2 c (by simp))).1
    simp only [List.cons_append, List.dropWhile_cons, first, if_true] at taken
    simp [behindName?, writeAttribute, noBlank, first, taken, isBlank_space]

/-- The end of a tag is found behind a written attribute when it is found behind the attribute's
value. -/
theorem attributesEnd?_writeAttribute (absent : '"' ∉ value) {tail : Text}
    (closed : attributesEnd? rest = some tail) :
    attributesEnd? (writeAttribute (name, value) ++ rest) = some tail := by
  -- The value in quotes is tried first, and it leads to the end.
  have quoted := quotedValue?_written rest absent
  simp only [attributesEnd?_eq (writeAttribute (name, value) ++ rest),
    behindName?_writeAttribute valid, afterEquals?_written, valueEnd?, quoted, Option.bind_some,
    closed, Option.some_or]

/-- A written attribute is read with its name in lower case. -/
theorem attributePairs_writeAttribute (absent : '"' ∉ value) :
    attributePairs (writeAttribute (name, value) ++ rest) =
      (Text.asciiLower name, value) :: attributePairs rest := by
  -- The name is taken up to the sign, and the value up to its quote.
  cases name with
  | nil => exact absurd rfl valid.1
  | cons c name =>
    obtain ⟨taken, behind⟩ := valid.span ('"' :: (value ++ '"' :: rest))
    have first := valid.isAttributeChar c (by simp)
    simp only [List.cons_append, List.takeWhile_cons, List.dropWhile_cons, first, if_true,
      List.cons.injEq, true_and] at taken behind
    have start : (writeAttribute (c :: name, value) ++ rest).dropWhile
        (fun c => !isAttributeChar c) = c :: (name ++ '=' :: '"' :: (value ++ '"' :: rest)) := by
      simp [writeAttribute, first, (by decide : isAttributeChar ' ' = false)]
    have read : attributeValue? ('=' :: '"' :: (value ++ '"' :: rest)) = some (value, rest) := by
      simp [attributeValue?, afterEquals?_written, quotedValue?_written rest absent]
    rw [attributePairs_of_start start, behind, taken, read]

end Attributes

/-- Attributes are read as they are written, with their names in lower case. -/
theorem attributePairs_written {attributes : List (Text × Text)}
    (names : ∀ pair ∈ attributes, IsAttributeName pair.1)
    (values : ∀ pair ∈ attributes, '"' ∉ pair.2) :
    attributePairs (attributes.flatMap writeAttribute) =
      attributes.map fun pair => (Text.asciiLower pair.1, pair.2) := by
  -- By induction on the attributes.
  induction attributes with
  | nil =>
    rw [List.flatMap_nil, attributePairs]
    rfl
  | cons pair attributes ih =>
    obtain ⟨valid, names⟩ := List.forall_mem_cons.mp names
    obtain ⟨absent, values⟩ := List.forall_mem_cons.mp values
    rw [List.flatMap_cons, attributePairs_writeAttribute valid _ absent, ih names values]
    rfl

/-- The end of a tag is found behind all attributes that are written. -/
theorem attributesEnd?_written {attributes : List (Text × Text)}
    (names : ∀ pair ∈ attributes, IsAttributeName pair.1)
    (values : ∀ pair ∈ attributes, '"' ∉ pair.2) {rest tail : Text}
    (closed : attributesEnd? rest = some tail) :
    attributesEnd? (attributes.flatMap writeAttribute ++ rest) = some tail := by
  -- By induction on the attributes, from the end of the tag back.
  induction attributes with
  | nil => exact closed
  | cons pair attributes ih =>
    obtain ⟨valid, names⟩ := List.forall_mem_cons.mp names
    obtain ⟨absent, values⟩ := List.forall_mem_cons.mp values
    rw [List.flatMap_cons, List.append_assoc]
    exact attributesEnd?_writeAttribute valid _ absent (ih names values)

namespace WrittenTag

variable (written : WrittenTag) (more : Text)

/-- The blanks in front of the end of a written tag are skipped. -/
theorem dropWhile_ending : (written.ending ++ more).dropWhile Text.isBlank =
    slashIf written.selfClosing ++ '>' :: more := by
  -- What stands behind the blanks is a slash or the bracket.
  have stops : ∀ c ∈ (slashIf written.selfClosing ++ '>' :: more).head?,
      Text.isBlank c = false := by
    cases written.selfClosing with
    | false => simp [slashIf, isBlank_bracket]
    | true => simp [slashIf, (by decide : Text.isBlank '/' = false)]
  simpa [ending] using (Text.span_append written.blank stops).2

/-- The end of a written tag is read. -/
theorem tagEnd?_ending : tagEnd? (written.ending ++ more) = some (written.selfClosing, more) := by
  -- Behind the blanks both kinds of end are read off.
  rw [tagEnd?, dropWhile_ending]
  cases written.selfClosing with
  | false => rfl
  | true => rfl

/-- No attribute begins at the end of a written tag. -/
theorem attributesEnd?_ending :
    attributesEnd? (written.ending ++ more) = some (written.ending ++ more) := by
  -- Neither a slash nor a bracket begins a name.
  have unnamed : behindName? (written.ending ++ more) = none := by
    rw [behindName?, dropWhile_ending]
    cases written.selfClosing with
    | false => simp [slashIf, isAttributeChar_bracket]
    | true => simp [slashIf, (by decide : isAttributeChar '/' = false)]
  simp only [attributesEnd?_eq (written.ending ++ more), unnamed, tagEnd?_ending,
    Option.isSome_some, if_true]

/-- What is written behind the name of a tag ends the name. -/
theorem head?_behindName : ∀ c ∈ (written.attributes.flatMap writeAttribute ++
    (written.ending ++ more)).head?, endsName c = true := by
  intro c first
  cases attributes : written.attributes with
  | cons pair attributes =>
    -- An attribute begins with a blank.
    rw [attributes] at first
    cases first
    decide
  | nil =>
    rw [attributes, List.flatMap_nil, List.nil_append, ending] at first
    -- Without attributes the name is followed by a blank, a slash or the bracket.
    cases space : written.space with
    | cons first_blank space =>
      rw [space] at first
      cases first
      simp [endsName, written.blank _ (space ▸ List.mem_cons_self)]
    | nil =>
      rw [space, List.nil_append] at first
      cases slash : written.selfClosing with
      | false =>
        rw [slash] at first
        cases first
        decide
      | true =>
        rw [slash] at first
        cases first
        decide

/-- A tag's name begins with a letter. -/
theorem exists_name_eq : ∃ c rest, written.name = c :: rest ∧ c.isAlpha = true := by
  -- The name has a first character, of which this is known.
  have starts := written.starts
  cases name : written.name with
  | nil => simp [name] at starts
  | cons c rest => exact ⟨c, rest, rfl, by simpa [name] using starts⟩

/-- The slash of a written tag is told from its name. -/
theorem splitSlash_content : splitSlash (written.content ++ more) =
    (slashIf written.closing, written.name ++
      (written.attributes.flatMap writeAttribute ++ (written.ending ++ more))) := by
  -- A letter is no slash, so only the slash of a closing tag is split off.
  obtain ⟨c, rest, name, letter⟩ := written.exists_name_eq
  have other : c ≠ '/' := by
    rintro rfl
    exact absurd letter (by decide)
  simp only [content, List.append_assoc]
  cases written.closing with
  | true => rfl
  | false => simp [slashIf, name, splitSlash, other]

/-- A tag begins where one is written. -/
theorem opensTag_content : opensTag (written.content ++ more) = true := by
  -- Its name begins with a letter.
  obtain ⟨c, rest, name, letter⟩ := written.exists_name_eq
  simp [opensTag, splitSlash_content, name, letter]

/-- A written tag is read as it was written, whatever follows it. -/
theorem read?_content : Tag.read? (written.content ++ more) = some (written.tag, more) := by
  have absent : ∀ pair ∈ written.attributes, '"' ∉ pair.2 := fun pair inside =>
    (written.values pair inside).1
  obtain ⟨named, behind⟩ := Text.span_append written.named fun c first =>
    isNameChar_of_endsName (written.head?_behindName more c first)
  have split := written.splitSlash_content more
  have closed := attributesEnd?_written written.attributeNames absent
    (written.attributesEnd?_ending more)
  refine Tag.read?_eq_some_iff.mpr ⟨_, _, ?_, written.tagEnd?_ending more, ?_⟩
  · rw [behindTagName, split, behind]
    exact closed
  · -- What stands in front of the end is the text of the attributes.
    simp only [behindTagName, split, named, behind, List.length_append, Nat.add_sub_cancel,
      List.take_left']
    rw [attributePairs_written written.attributeNames absent]
    rfl

/-- The attributes of a written tag are found under their names in lower case. -/
theorem get?_attributes (name value : Text) :
    Table.get? name written.tag.attributes = some value ↔
      ∃ spelled, (spelled, value) ∈ written.attributes ∧ Text.asciiLower spelled = name := by
  -- The names are distinct in lower case, so no value is lost.
  have distinct : ((written.attributes.map fun pair =>
      (Text.asciiLower pair.1, pair.2)).map Prod.fst).Nodup := by
    simpa [List.map_map, Function.comp_def] using written.distinct
  rw [tag, Table.get?_ofPairs_eq_some_iff distinct]
  simp

end WrittenTag

end RelyingParty.Html
