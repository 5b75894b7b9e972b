import RelyingParty.Realm
import RelyingParty.Realm.ReturnUrl
import RelyingParty.Yadis

/-! A return URL is verified against those that its realm declares. -/

namespace RelyingParty.Realm

/-- The return URLs that are declared at a URL; redirects to another URL are refused. -/
def allowedReturnUrls (relyingPartyUrl : Text) : Flow (List Text) := do
  let (finalUrl, returnUrls) ← Yadis.endpoints (.ofRule returnUrlRule) relyingPartyUrl
  if finalUrl = relyingPartyUrl then return returnUrls
  else Flow.fail (.realmRedirected relyingPartyUrl finalUrl)

/-- Whether some declared URL admits a return URL; a mismatch is reported. -/
def judge (returnTo : Text) (allowed : List Text) : Flow Bool :=
  if returnUrlMatches allowed returnTo then pure true
  else .report (.returnUrlRefused returnTo) (pure false)

/-- Verifies a return URL against a realm; a redirected realm verifies none. -/
def verify (realm : Realm) (returnTo : Text) : Flow Bool :=
  (allowedReturnUrls realm.discoveryUrl).andThen fun result =>
    match result with
    | .ok allowed => judge returnTo allowed
    -- A redirect is answered with no rather than with a fault, and reported.
    | .error (.realmRedirected relyingPartyUrl finalUrl) =>
      .report (.realmRedirected relyingPartyUrl finalUrl) (pure false)
    | .error fault => Flow.fail fault

/-- Verifies a return URL against the text of a realm; what is no realm verifies none. -/
def verifyText (source returnTo : Text) : Flow Bool :=
  match parse? source with
  | none => pure false
  | some realm => Flow.observe .realmVerification "verify_return_to" (realm.verify returnTo)

end RelyingParty.Realm
