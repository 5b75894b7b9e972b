import RelyingParty.Text

/-! A cursor hands out the endpoints that were discovered for one identifier, one at a time. -/

namespace RelyingParty

/-- The endpoints left to try, the one handed out last, and the URLs before and after discovery. -/
structure Cursor (ε : Type) where
  startingUrl : Text
  yadisUrl : Text
  services : List ε
  current : Option ε
  deriving DecidableEq, Repr

namespace Cursor

variable {ε : Type}

/-- A cursor that has handed out nothing. -/
def make (startingUrl yadisUrl : Text) (services : List ε) : Cursor ε :=
  ⟨startingUrl, yadisUrl, services, none⟩

/-- The cursor with its next endpoint handed out; none when nothing is left. -/
def advance (cursor : Cursor ε) : Cursor ε :=
  { cursor with services := cursor.services.tail, current := cursor.services.head? }

/-- Whether the cursor was made for a URL, or for one that led to it. -/
def isFor (url : Text) (cursor : Cursor ε) : Bool :=
  cursor.startingUrl = url || cursor.yadisUrl = url

/-- Whether an endpoint is being tried. -/
def isStarted (cursor : Cursor ε) : Bool := cursor.current.isSome

/-- Whether no endpoint is left. -/
def isExhausted (cursor : Cursor ε) : Bool := cursor.services.isEmpty

/-- The number of endpoints left. -/
def remaining (cursor : Cursor ε) : Nat := cursor.services.length

end Cursor

end RelyingParty
