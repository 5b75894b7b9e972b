import RelyingParty.Fault
import RelyingParty.Json

/-! A session store in memory, which may refuse one kind of access. -/

namespace RelyingParty

/-- The kinds of access to a store. -/
inductive Access where
  | get
  | set
  | delete
  deriving DecidableEq, Repr

namespace Access

/-- The name of a kind of access. -/
def name : Access → Text
  | get => "get"
  | set => "set"
  | delete => "delete"

/-- The kind of access of a name. -/
def ofName? (written : Text) : Option Access := [get, set, delete].find? (·.name = written)

end Access

/-- Values by key, and the kind of access that is refused. -/
structure Store where
  values : Table Json
  refused : Option Access
  deriving Repr

namespace Store

/-- The store that holds nothing and refuses nothing. -/
def empty : Store := ⟨[], none⟩

/-- Goes on unless a kind of access is refused. -/
def allow {α : Type} (access : Access) (result : α × Store) (store : Store) :
    Except SessionFault α × Store :=
  if store.refused = some access then (.error (.backend (access.name ++ " refused")), store)
  else (.ok result.1, result.2)

/-- The value under a key. -/
def get (key : Text) (store : Store) : Except SessionFault (Option Json) × Store :=
  store.allow .get (Table.get? key store.values, store)

/-- Puts a value under a key, in place of an earlier one. -/
def set (key : Text) (value : Json) (store : Store) : Except SessionFault Unit × Store :=
  store.allow .set ((), { store with values := Table.insert key value store.values })

/-- Removes a key, which may be missing. -/
def delete (key : Text) (store : Store) : Except SessionFault Unit × Store :=
  store.allow .delete ((), { store with values := Table.erase key store.values })

end Store

end RelyingParty
