import RelyingParty.Config
import RelyingParty.Json.Record

/-! Reading a configuration from JSON. -/

namespace RelyingParty.Config

/-- What is expected where a configuration stands. -/
def title : Text := "RawDiscoveryConfig"

/-- The fields of a configuration. -/
def fields : List (Json.RecordField Config) :=
  [.scalar "xri_proxy_url" Json.decodeText fun proxyUrl config => { config with proxyUrl },
    -- The order is the one in which an array lists them.
    .scalar "session_key_suffix" Json.decodeText
      fun sessionKeySuffix config => { config with sessionKeySuffix },
    .scalar "redirect_limit" (Json.decodeInteger 0 255 "u8")
      fun limit config => { config with redirectLimit := limit.toNat }]

/-- Checks settings that were read; a fault is one of the whole text. -/
def checkRead (config : Config) : Except Json.RecordFault Config :=
  config.check.mapError fun fault => .data ⟨[], .refused fault.message⟩

/-- Reads a configuration; fields that are missing have their standard values. -/
def parse (text : Text) : Except Json.RecordFault Config := do
  let (config, _) ← Json.readRecord title fields standard text
  checkRead config

end RelyingParty.Config
