import RelyingParty.Text

/-! Services, as XRDS documents describe them. -/

namespace RelyingParty

/-- A URI of a service. -/
structure ServiceUri where
  priority : Option Int
  uri : Text
  deriving DecidableEq, Repr

/-- A service: its types, its URIs, and the identifiers it knows the user by. -/
structure Service where
  priority : Option Int
  types : List Text
  uris : List ServiceUri
  localIds : List Text
  delegates : List Text
  deriving DecidableEq, Repr

/-- Sorts by ascending priority; a missing one counts as zero and equal ones keep their order. -/
def sortByPriority {α : Type} (priority : α → Option Int) (list : List α) : List α :=
  list.mergeSort fun a b => (priority a).getD 0 ≤ (priority b).getD 0

/-- The URIs of a service by priority. -/
def Service.sortedUris (service : Service) : List ServiceUri :=
  sortByPriority ServiceUri.priority service.uris

end RelyingParty
