import RelyingParty.Flow
import RelyingParty.Session.Value

/-! A manager keeps the cursor of one URL in the session, under a key that managers may share. -/

namespace RelyingParty

/-- The URL that endpoints are discovered for, and what follows the common start of the key. -/
structure Manager where
  url : Text
  suffix : Text
  deriving DecidableEq, Repr

namespace Manager

variable {ε : Type}

/-- The start of the keys of cursors. -/
def keyStart : Text := "DiscoveredServices::"

/-- The key of the cursor. -/
def key (manager : Manager) : Text := keyStart ++ manager.suffix

/-- Reports that the stored value is passed over. -/
def discard (manager : Manager) (reason : Text) : Flow (Option (Cursor ε)) :=
  .report (.sessionValueDiscarded manager.key reason) (pure none)

/-- The stored cursor; any other value is passed over. -/
def load (codec : EndpointCodec ε) (manager : Manager) : Flow (Option (Cursor ε)) := do
  match ← Flow.stored manager.key with
  | none => return none
  | some value =>
    match SessionValue.decode codec value with
    | .ok (.cursor cursor) => return some cursor
    -- A value of another kind is passed over like one that does not decode.
    | .ok _ => manager.discard "value is not a cursor"
    | .error fault => manager.discard fault.message

/-- Stores a cursor. -/
def save (codec : EndpointCodec ε) (manager : Manager) (cursor : Cursor ε) : Flow Unit :=
  Flow.store manager.key ((SessionValue.cursor cursor).toJson codec)

/-- The stored cursor when it is for the manager's URL, or any one by force. -/
def cursor (codec : EndpointCodec ε) (force : Bool) (manager : Manager) :
    Flow (Option (Cursor ε)) := do
  let cursor ← manager.load codec
  return cursor.filter fun cursor => force || cursor.isFor manager.url

/-- Stores a cursor over some endpoints, or nothing when there are none; a cursor that is already
there is a fault. -/
def create (codec : EndpointCodec ε) (yadisUrl : Text) (services : List ε) (manager : Manager) :
    Flow (Option (Cursor ε)) := do
  -- A cursor of another starting URL does not count as one that is already there.
  if (← manager.cursor codec false).isSome then Flow.fail (.cursorExists yadisUrl)
  else if services.isEmpty then return none
  else
    let cursor := Cursor.make manager.url yadisUrl services
    manager.save codec cursor
    return some cursor

/-- Removes the stored cursor when it is for the manager's URL, or any one by force. -/
def destroy (codec : EndpointCodec ε) (force : Bool) (manager : Manager) : Flow Unit := do
  if (← manager.cursor codec force).isSome then Flow.forget manager.key

/-- The cursor that has endpoints left; an exhausted one is removed. -/
def usable (codec : EndpointCodec ε) (manager : Manager) : Flow (Option (Cursor ε)) := do
  match ← manager.cursor codec false with
  | none => return none
  | some cursor =>
    if cursor.isExhausted then
      -- The exhausted cursor goes before discovery runs, which may fail.
      manager.destroy codec false
      return none
    else return some cursor

/-- Hands out the next endpoint, and discovers first when no cursor is usable. -/
def next (codec : EndpointCodec ε) (discover : Text → Flow (Text × List ε)) (manager : Manager) :
    Flow (Option ε) := do
  let cursor ←
    match ← manager.usable codec with
    | some cursor => pure (some cursor)
    | none => do
      let (yadisUrl, services) ← discover manager.url
      manager.create codec yadisUrl services
  match cursor with
  | none => return none
  | some cursor =>
    -- What is stored has already advanced, so the next call goes on behind it.
    manager.save codec cursor.advance
    return cursor.advance.current

/-- Gives the endpoint that is being tried and removes the cursor. -/
def cleanup (codec : EndpointCodec ε) (force : Bool) (manager : Manager) : Flow (Option ε) := do
  match ← manager.cursor codec force with
  | none => return none
  | some cursor =>
    -- What was read is given although it is gone from the store.
    Flow.forget manager.key
    return cursor.current

end Manager

end RelyingParty
