import RelyingParty.Proofs.Json.Collections
import RelyingParty.Proofs.Table
import RelyingParty.Session.Value

/-! Session values are read back as they were written. -/

namespace RelyingParty

/-- An endpoint is read back. -/
theorem Endpoint.ofJson_toJson (endpoint : Endpoint) : ofJson endpoint.toJson = .ok endpoint := by
  -- Every field is found under its name, and read back by the law of its kind.
  simp [ofJson, toJson, Json.ofMembers, Json.decodeRecord, Json.Source.optional,
    Json.Source.required, Json.Source.field, Table.get?_ofPairs, Table.get?, Json.decodeAt,
    Json.decodeOptional_ofOption, Json.decodeList_ofTexts, Json.decodeText, Json.decodeFlag,
    Json.Fields.also, Json.Fields.result]

/-- Whether endpoints that a codec writes are read back, and none is written as null. -/
structure EndpointCodec.Lossless {ε : Type} (codec : EndpointCodec ε) : Prop where
  decode_encode : ∀ endpoint, codec.decode (codec.encode endpoint) = .ok endpoint
  encode_ne_null : ∀ endpoint, codec.encode endpoint ≠ .null

/-- The codec of OpenID endpoints loses nothing. -/
theorem EndpointCodec.openid_lossless : EndpointCodec.openid.Lossless where
  -- An endpoint is an object, and so is never null.
  decode_encode := Endpoint.ofJson_toJson
  encode_ne_null _ := nofun

variable {ε : Type} {codec : EndpointCodec ε}

/-- An optional endpoint is read back. -/
theorem EndpointCodec.Lossless.decodeOptional (lossless : codec.Lossless) (endpoint : Option ε) :
    Json.decodeOptional codec.decode ((endpoint.map codec.encode).getD .null) = .ok endpoint := by
  cases endpoint with
  | none => rfl
  | some endpoint =>
    have read := lossless.decode_encode endpoint
    -- A written null would be read as a missing endpoint.
    cases written : codec.encode endpoint with
    | null => exact absurd written (lossless.encode_ne_null endpoint)
    | _ => simp_all [Json.decodeOptional, Except.map]

/-- A cursor is read back. -/
theorem Cursor.ofJson_toJson (lossless : codec.Lossless) (cursor : Cursor ε) :
    ofJson codec (cursor.toJson codec) = .ok cursor := by
  -- Field by field, each is found under its name and read back.
  simp [ofJson, toJson, Json.ofMembers, Json.decodeRecord, Json.Source.optional,
    Json.Source.required, Json.Source.field, Table.get?_ofPairs, Table.get?, Json.decodeAt,
    Json.decodeList_map lossless.decode_encode, lossless.decodeOptional, Json.decodeText,
    Json.Fields.also, Json.Fields.result]

/-- A kind is read back by its name. -/
theorem SessionKind.ofJson_name (kind : SessionKind) :
    SessionKind.ofJson (.string kind.name) = .ok kind := by
  cases kind <;> rfl

namespace SessionValue

/-- The content of a value is read back under its kind. -/
theorem contentOfJson_contentToJson (lossless : codec.Lossless) (value : SessionValue ε) :
    contentOfJson codec value.kind (value.contentToJson codec) = .ok value := by
  -- Each kind of value has its own content.
  cases value with
  | endpoint content =>
    simp [contentOfJson, contentToJson, kind, lossless.decode_encode, Except.map]
  | raw content => rfl
  | cursor content =>
    simp [contentOfJson, contentToJson, kind, Cursor.ofJson_toJson lossless, Except.map]

/-- A session value is read back. -/
theorem decode_toJson (lossless : codec.Lossless) (value : SessionValue ε) :
    decode codec (value.toJson codec) = .ok value := by
  -- The kind is read first, and it says how the content is read.
  have kindFound : Table.get? "kind" (Table.ofPairs
      [(("kind" : Text), Json.string value.kind.name), ("value", value.contentToJson codec)]) =
        some (.string value.kind.name) := by simp [Table.get?_ofPairs, Table.get?]
  have contentFound : Table.get? "value" (Table.ofPairs
      [(("kind" : Text), Json.string value.kind.name), ("value", value.contentToJson codec)]) =
        some (value.contentToJson codec) := by simp [Table.get?_ofPairs, Table.get?]
  simp only [decode, toJson, Json.ofMembers, ofJson, kindFound, contentFound, Json.decodeAt,
    SessionKind.ofJson_name, contentOfJson_contentToJson lossless, mapError_ok, Bind.bind,
    Except.bind]

end SessionValue

end RelyingParty
