import SearchQuery.Model.Table
import SearchQuery.Statement.Bound
import SearchQuery.Statement.Select

/-!
# Loading rows

A merged option-map tells how the rows of a table model are loaded: by a statement with bound
parameters, together with the associations that the option-map includes.
-/

namespace SearchQuery.Statement

/-- A statement that is ready to be sent, and the associations to load along with its rows. -/
structure Loading where
  bound : Bound
  associations : List String
  deriving Inhabited

/-- The association that a value names. -/
def association (t : Table) (name : Value) : Except Failure String :=
  match name.text? with
  | some s =>
    if t.associations.contains s then .ok s
    else .error (unknown name)
  | none => if name.isKey then .error (unknown name) else .error .wrongType
where
  /-- The failure of a name that no association has. -/
  unknown (name : Value) : Failure :=
    if name.display?.isNone then .badValue
    else .invalidFindOptions ["include"]
      (some (t.model ++ " has no relationship '" ++ name.display ++ "'"))

/-- The associations that the value of the key `include` names. -/
def associations (t : Table) (included : Value) : Except Failure (List String) :=
  if !included.truthy then .ok []
  else
    match included with
    | .text _ => do return [← association t included]
    | v =>
      match v.items? with
      | some names => names.mapM (association t)
      | none => .error .wrongType

/-- The statement that selects what an option-map describes. -/
def ofOptions (t : Table) (options : Value) : Except Failure (Fragment Value) :=
  select t.sqlTable options

/-- How the rows that an option-map describes are loaded. -/
def findAll (t : Table) (options : Value) : Except Failure Loading := do
  let bound ← Bound.ofFragment (← ofOptions t options)
  let included := options.entries?.bind (Value.lookupText · "include")
  return ⟨bound, ← associations t (included.getD .null)⟩

/-- How the rows that an option-map describes are counted. -/
def count (t : Table) (options : Value) : Except Failure Loading := do
  return ⟨← Bound.ofFragment (counting (← ofOptions t options)), []⟩

end SearchQuery.Statement
