import RelyingParty.Text.Blank
import RelyingParty.Url
import RelyingParty.Xri.Resolver
import RelyingParty.Http

/-! The configuration of a consumer, checked before it is used. -/

namespace RelyingParty

/-- The settings of a consumer. -/
structure Config where
  proxyUrl : Text
  sessionKeySuffix : Text
  redirectLimit : Nat
  deriving DecidableEq, Repr

/-- Why settings are refused. -/
inductive ConfigFault where
  | invalidProxyUrl (fault : UrlFault)
  | proxyScheme (url : Text)
  | emptySuffix
  | blankInSuffix (suffix : Text)
  | noRedirects
  deriving DecidableEq, Repr

/-- The message of a fault. -/
def ConfigFault.message : ConfigFault → Text
  | invalidProxyUrl _ => "XRI proxy URL is invalid."
  | proxyScheme url => "XRI proxy URL must use http or https: ".toList ++ url ++ ['.']
  | emptySuffix => "Session key suffix cannot be empty."
  | blankInSuffix suffix => "Session key suffix contains whitespace: ".toList ++ suffix ++ ['.']
  | noRedirects => "Redirect limit must be greater than zero."

namespace Config

/-- The settings that hold unless others are given. -/
def standard : Config := ⟨Xri.Resolver.defaultProxy, "auth", defaultRedirectLimit⟩

/-- Checks what follows the common start of session keys. -/
def checkSuffix (suffix : Text) : Except ConfigFault Unit :=
  if suffix = [] then .error .emptySuffix
  else if suffix.any Text.isBlank then .error (.blankInSuffix suffix)
  else .ok ()

/-- Checks settings; the URL of the proxy gets a slash at its end. -/
def check (config : Config) : Except ConfigFault Config := do
  let url ← (Url.parse config.proxyUrl).mapError .invalidProxyUrl
  -- The URL has been read at this point, so its scheme is known.
  if !url.isHttp then throw (.proxyScheme config.proxyUrl)
  checkSuffix config.sessionKeySuffix
  if config.redirectLimit = 0 then throw .noRedirects
  -- The slash is put behind the text as it was given, not behind the URL that was read.
  return { config with proxyUrl := Xri.withSlash config.proxyUrl }

/-- The resolver that asks the configured proxy. -/
def resolver (config : Config) : Xri.Resolver := .ofUrl config.proxyUrl

end Config

end RelyingParty
