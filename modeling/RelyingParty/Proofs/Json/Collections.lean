import RelyingParty.Json.Decode
import RelyingParty.Proofs.Except

/-! Options and lists in JSON are read back when what they hold is. -/

namespace RelyingParty.Json

variable {α : Type}

/-- An optional text is read back. -/
theorem decodeOptional_ofOption (value : Option Text) :
    decodeOptional decodeText (ofOption value) = .ok value := by
  -- Nothing is written as null, which no text is.
  cases value with
  | none => rfl
  | some text => rfl

/-- The items of an array are read back from any index on. -/
theorem decodeItems_map {decode : Decoder α} {encode : α → Json}
    (lossless : ∀ value, decode (encode value) = .ok value) (index : Nat) (values : List α) :
    decodeItems decode index (values.map encode) = .ok values := by
  -- By induction on the items; the index is only named in faults.
  induction values generalizing index with
  | nil => rfl
  | cons value rest ih =>
    simp [decodeItems, decodeAt, lossless, ih, Bind.bind, Except.bind, Pure.pure, Except.pure]

/-- An array is read back when its items are. -/
theorem decodeList_map {decode : Decoder α} {encode : α → Json}
    (lossless : ∀ value, decode (encode value) = .ok value) (values : List α) :
    decodeList decode (array (values.map encode)) = .ok values :=
  decodeItems_map lossless 0 values

/-- An array of texts is read back. -/
theorem decodeList_ofTexts (values : List Text) :
    decodeList decodeText (ofTexts values) = .ok values := by
  -- A text is written as it is.
  have lossless : ∀ value, decodeText (string value) = .ok value := fun _ => rfl
  exact decodeList_map lossless values

end RelyingParty.Json
