/-!
# Tables of entries

Where what is written later replaces what was written before, a table is a list of entries. Each key has one
entry, at the place where it was written first.
-/

namespace SearchQuery

/-- Write an entry of a table: a key that is there keeps its place, a new one comes last. -/
def putEntry {κ α : Type} [BEq κ] (entries : List (κ × α)) (key : κ) (value : α) : List (κ × α) :=
  if entries.any (·.1 == key) then
    entries.map fun e => if e.1 == key then (key, value) else e
  else entries ++ [(key, value)]

end SearchQuery
