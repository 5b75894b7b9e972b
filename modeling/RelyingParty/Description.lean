import RelyingParty.Consumer
import RelyingParty.Filter
import RelyingParty.Text.Quoted

/-! How filters, managers and consumers describe themselves in messages. -/

namespace RelyingParty

/-- A name and the fields behind it between braces. -/
def describeRecord (name : Text) (fields : List Text) : Text :=
  name ++ " \x7b ".toList ++ List.intercalate ", " fields ++ " \x7d"

/-- A field with its value. -/
def describeField (name value : Text) : Text := name ++ ": ".toList ++ value

/-- What stands for the fields that are not shown. -/
def hiddenFields : Text := ".."

mutual

/-- The description of a filter: the number of its rules, or its parts. -/
def Filter.describe {ε : Type} : Filter ε → Text
  | .transform rules =>
    "Transform(".toList ++
      describeRecord "TransformFilter" [describeField "procs" (Text.ofNat rules.length)] ++ [')']
  -- The parts of a compound filter are filters again.
  | .compound filters =>
    "Compound([".toList ++ List.intercalate ", " (describeFilters filters) ++ "])"

/-- The descriptions of some filters. -/
def describeFilters {ε : Type} : List (Filter ε) → List Text
  | [] => []
  | filter :: rest => filter.describe :: describeFilters rest

end

/-- The description of a manager. -/
def Manager.describe (manager : Manager) : Text :=
  describeRecord "DiscoveryManager"
    [describeField "url" (Text.quote manager.url),
      describeField "session_key" (Text.quote manager.key), hiddenFields]

/-- The description of a configuration. -/
def Config.describe (config : Config) : Text :=
  describeRecord "DiscoveryConfig"
    [describeField "xri_proxy_url" (Text.quote config.proxyUrl),
      describeField "session_key_suffix" (Text.quote config.sessionKeySuffix),
      describeField "redirect_limit" (Text.ofNat config.redirectLimit)]

/-- The description of a resolver. -/
def Xri.Resolver.describe (resolver : Resolver) : Text :=
  describeRecord "ProxyResolver" [describeField "proxy_url" (Text.quote resolver.proxyUrl)]

/-- The description of a consumer. -/
def Consumer.describe (consumer : Consumer) : Text :=
  describeRecord "Consumer"
    [describeField "config" consumer.config.describe,
      describeField "resolver" consumer.config.resolver.describe, hiddenFields]

end RelyingParty
