import RelyingParty.Proofs.Html.Attributes

/-! A tag that ends in a text is read the same, whatever follows the text. -/

namespace RelyingParty.Html

/-- The text behind the name of a tag. -/
def behindTagName (text : Text) : Text := (splitSlash text).2.dropWhile isNameChar

/-- The bracket that ends a tag ends its name. -/
theorem isNameChar_bracket : isNameChar '>' = false := by decide

/-- A tag is what stands between its name and its end. -/
theorem Tag.read?_eq_some_iff {text rest : Text} {tag : Tag} :
    Tag.read? text = some (tag, rest) ↔
      ∃ tail slash, attributesEnd? (behindTagName text) = some tail ∧
        tagEnd? tail = some (slash, rest) ∧
        tag = ⟨(splitSlash text).1 ++ Text.asciiLower ((splitSlash text).2.takeWhile isNameChar),
          Table.ofPairs (attributePairs
            ((behindTagName text).take ((behindTagName text).length - tail.length))), slash⟩ := by
  -- The two ends are found one after the other, and the rest is written down.
  unfold Tag.read?
  simp only [Option.bind_eq_some_iff, Option.map_eq_some_iff, Prod.mk.injEq, Prod.exists]
  constructor
  · rintro ⟨tail, closed, slash, _, ends, rfl, rfl⟩
    exact ⟨tail, slash, closed, ends, rfl⟩
  · rintro ⟨tail, slash, closed, ends, rfl⟩
    exact ⟨tail, closed, slash, rest, ends, rfl, rfl⟩

/-- A text that begins a tag is its name with what is behind it. -/
theorem behindTagName_suffix (text : Text) : behindTagName text <:+ text := by
  -- A slash is dropped, and then the name.
  have named : (splitSlash text).2 <:+ text := by
    unfold splitSlash
    split
    · exact List.suffix_cons _ _
    · exact List.suffix_rfl
  exact (List.dropWhile_suffix isNameChar).trans named

/-- A tag ends with a bracket. -/
theorem Tag.exists_of_read? {text rest : Text} {tag : Tag}
    (read : Tag.read? text = some (tag, rest)) : ∃ front, text = front ++ '>' :: rest := by
  -- Attributes and name only take from the front.
  obtain ⟨tail, slash, closed, ends, _⟩ := Tag.read?_eq_some_iff.mp read
  obtain ⟨before, rfl⟩ := (attributesEnd?_suffix closed).trans (behindTagName_suffix text)
  obtain ⟨front, rfl⟩ := exists_of_tagEnd? ends
  exact ⟨before ++ front, by simp⟩

section Append

variable {text : Text} (closes : '>' ∈ text) (more : Text)
include closes

/-- The slash in front of a bracket is split off, whatever follows the bracket. -/
theorem splitSlash_append :
    splitSlash (text ++ more) = ((splitSlash text).1, (splitSlash text).2 ++ more) := by
  -- The text has a first character, which decides.
  cases text with
  | nil => cases closes
  | cons c rest =>
    by_cases slash : c = '/'
    · subst slash
      rfl
    · simp [splitSlash, slash]

/-- A bracket stands behind the slash of a closing tag. -/
theorem mem_splitSlash : '>' ∈ (splitSlash text).2 := by
  -- The slash is no bracket.
  unfold splitSlash
  split
  · simpa using closes
  · exact closes

/-- Whether a tag begins is told from what is in front of a bracket. -/
theorem opensTag_append : opensTag (text ++ more) = opensTag text := by
  -- What is left behind the slash is not empty, so its first character is there.
  have inside := mem_splitSlash closes
  unfold opensTag
  rw [splitSlash_append closes]
  cases named : (splitSlash text).2 with
  | nil => simp [named] at inside
  | cons c rest => rfl

/-- The name of a tag ends in front of a bracket, whatever follows the bracket. -/
theorem behindTagName_append : behindTagName (text ++ more) = behindTagName text ++ more := by
  -- The name ends at the bracket at the latest.
  unfold behindTagName
  rw [splitSlash_append closes]
  exact Text.dropWhile_append_of_mem isNameChar_bracket (mem_splitSlash closes) more

end Append

/-- Where a tag is read, one is read whatever follows the text. -/
theorem Tag.isSome_read?_append {text rest : Text} {tag : Tag}
    (read : Tag.read? text = some (tag, rest)) (more : Text) :
    (Tag.read? (text ++ more)).isSome = true := by
  -- The attributes end somewhere in the longer text, and the tag ends there.
  have closes : '>' ∈ text := by
    obtain ⟨front, rfl⟩ := Tag.exists_of_read? read
    simp
  obtain ⟨tail, _, closed, _⟩ := Tag.read?_eq_some_iff.mp read
  obtain ⟨longer, found⟩ := Option.isSome_iff_exists.mp (isSome_attributesEnd?_append closed more)
  obtain ⟨⟨slash, behind⟩, ends⟩ :=
    Option.isSome_iff_exists.mp (attributesEnd?_sound found).2
  rw [← behindTagName_append closes] at found
  exact Option.isSome_iff_exists.mpr
    ⟨_, Tag.read?_eq_some_iff.mpr ⟨longer, slash, found, ends, rfl⟩⟩

/-- A tag that ends in front of all that follows a text is one of the text. -/
theorem Tag.exists_read?_of_append {text more rest : Text} {tag : Tag}
    (read : Tag.read? (text ++ more) = some (tag, rest)) (front : more.length ≤ rest.length) :
    ∃ kept, rest = kept ++ more ∧ Tag.read? text = some (tag, kept) := by
  obtain ⟨longer, slash, closed, ends, same⟩ := Tag.read?_eq_some_iff.mp read
  obtain ⟨before, rfl⟩ := exists_of_tagEnd? ends
  have under := (attributesEnd?_suffix closed).trans (behindTagName_suffix (text ++ more))
  -- What is left is at least what follows the text, so the tag ends in the text.
  have behind : rest <:+ text ++ more :=
    (List.suffix_append_of_suffix (List.suffix_cons '>' rest)).trans under
  obtain ⟨kept, rfl⟩ :=
    List.suffix_of_suffix_length_le (List.suffix_append text more) behind front
  have shape : before ++ '>' :: (kept ++ more) = (before ++ '>' :: kept) ++ more := by simp
  rw [shape] at closed ends under same
  have bracket : '>' ∈ before ++ '>' :: kept := by simp
  have closes : '>' ∈ text := (List.suffix_append_self_iff.mp under).subset bracket
  rw [behindTagName_append closes] at closed same
  have own := attributesEnd?_of_append closed bracket
  rw [tagEnd?_append bracket] at ends
  obtain ⟨⟨closing, left⟩, finish, equal⟩ := Option.map_eq_some_iff.mp ends
  obtain ⟨rfl, unchanged⟩ := Prod.mk.inj equal
  obtain rfl : kept = left := (List.append_cancel_right unchanged).symm
  refine ⟨_, rfl, Tag.read?_eq_some_iff.mpr ⟨_, _, own, finish, ?_⟩⟩
  -- The name and the text of the attributes stand in front of the end as before.
  have lengths : (behindTagName text ++ more).length - ((before ++ '>' :: kept) ++ more).length =
      (behindTagName text).length - (before ++ '>' :: kept).length := by
    simp only [List.length_append]
    omega
  rw [same, lengths, List.take_append_of_le_length (Nat.sub_le _ _), splitSlash_append closes,
    Text.takeWhile_append_of_mem isNameChar_bracket (mem_splitSlash closes)]

/-- A tag of a text is the same with what follows, unless it ends in that. -/
theorem Tag.read?_append {text more rest : Text} {tag : Tag}
    (read : Tag.read? text = some (tag, rest))
    (apart : (Tag.read? (text ++ more)).any (fun read => read.2.length < more.length) = false) :
    Tag.read? (text ++ more) = some (tag, rest ++ more) := by
  -- What is read of the longer text ends in the shorter one, so it is read of that too.
  obtain ⟨⟨found, left⟩, longer⟩ := Option.isSome_iff_exists.mp (Tag.isSome_read?_append read more)
  rw [longer] at apart
  have front : more.length ≤ left.length := by simpa using apart
  obtain ⟨kept, rfl, own⟩ := Tag.exists_read?_of_append longer front
  cases read.symm.trans own
  exact longer

end RelyingParty.Html
