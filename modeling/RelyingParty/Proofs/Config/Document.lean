import RelyingParty.Config.Reader
import RelyingParty.Proofs.Json.Document

/-! A configuration is read from the JSON document that a text begins with; what follows it is not
looked at, even when it is no blank. -/

namespace RelyingParty.Config

open Json (RecordField)

/-- No field is an array or an object. -/
theorem isScalar_of_mem_fields : ∀ field ∈ fields, field.IsScalar := by
  -- Two fields are texts, and one is an integer.
  have text (name : Text) (set : Text → Config → Config) :
      (RecordField.scalar name Json.decodeText set).IsScalar :=
    RecordField.isScalar_scalar name set (by simp [Json.decodeText]) (by simp [Json.decodeText])
  have limit (name : Text) (set : Int → Config → Config) :
      (RecordField.scalar name (Json.decodeInteger 0 255 "u8") set).IsScalar :=
    RecordField.isScalar_scalar name set (by simp [Json.decodeInteger])
      (by simp [Json.decodeInteger])
  simp only [fields, List.forall_mem_cons, List.not_mem_nil, false_implies, implies_true, and_true]
  exact ⟨text _ _, text _ _, limit _ _⟩

/-- Accepted settings are those of one JSON document that the text begins with. It is accepted by
itself and with whatever follows it, although both together are a JSON document only when nothing
but blanks follow. -/
theorem parse_of_document {text : Text} {config : Config} (accepted : parse text = .ok config) :
    ∃ document rest, text = document ++ rest ∧ parse document = .ok config ∧
      (∃ json, Json.parse document = .ok json) ∧ ∀ more, parse (text ++ more) = .ok config ∧
        ((∃ json, Json.parse (text ++ more) = .ok json) ↔
          ∀ c ∈ rest ++ more, Json.isSpace c = true) := by
  -- The settings are checked after the record has been read, whatever stands behind it.
  obtain ⟨⟨given, rest⟩, read, checked⟩ := bind_eq_ok_iff.mp accepted
  obtain ⟨document, whole, again⟩ := Json.exists_document_of_readRecord isScalar_of_mem_fields read
  -- What is read before the check does not look behind the end of the record.
  have kept (more : Text) : parse (document ++ more) = .ok config :=
    bind_eq_ok_iff.mpr ⟨(given, more), (again more).1, checked⟩
  have alone := again []
  rw [List.append_nil] at alone
  refine ⟨document, rest, whole, ?_, alone.2.mpr (by simp), fun more => ?_⟩
  · have itself := kept []
    rwa [List.append_nil] at itself
  · rw [whole, List.append_assoc]
    exact ⟨kept _, (again _).2⟩

/-- Two documents one behind the other are accepted as the first of them, and are no document. -/
theorem parse_of_document_twice :
    parse "{}" = .ok standard ∧ parse ("{}".toList ++ " {}".toList) = .ok standard ∧
      ¬∃ json, Json.parse ("{}".toList ++ " {}".toList) = .ok json := by
  -- An opening brace is no blank.
  have accepted : parse "{}" = .ok standard := by decide +kernel
  obtain ⟨_, _, _, _, _, again⟩ := parse_of_document accepted
  obtain ⟨kept, whole⟩ := again " {}"
  refine ⟨accepted, kept, fun document => ?_⟩
  have blank := whole.mp document '{' (List.mem_append_right _ (by decide))
  exact absurd blank (by decide)

end RelyingParty.Config
