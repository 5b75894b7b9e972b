import RelyingParty.Text

/-! Tables hold one value per name, in the order of the names. -/

namespace RelyingParty

/-- Values by name; the functions below keep the names in ascending order. -/
abbrev Table (α : Type) := List (Text × α)

namespace Table

variable {α : Type}

/-- Puts a value under a name, in place of an earlier one. -/
def insert (name : Text) (value : α) : Table α → Table α
  | [] => [(name, value)]
  | entry :: rest =>
    if name = entry.1 then (name, value) :: rest
    -- Names ascend, so the first greater one marks the place.
    else if name < entry.1 then (name, value) :: entry :: rest
    else entry :: insert name value rest

/-- The value under a name. -/
def get? (name : Text) : Table α → Option α
  | [] => none
  | entry :: rest => if entry.1 = name then some entry.2 else get? name rest

/-- The table without a name. -/
def erase (name : Text) (table : Table α) : Table α := table.filter (·.1 ≠ name)

/-- The table of a list of pairs; of two values for one name the later stays. -/
def ofPairs (pairs : List (Text × α)) : Table α :=
  pairs.foldl (fun table pair => insert pair.1 pair.2 table) []

end Table

end RelyingParty
