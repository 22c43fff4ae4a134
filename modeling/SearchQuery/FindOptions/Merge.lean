import SearchQuery.FindOptions.Basic

/-!
# Merging option-maps

The option-maps of several search attributes are merged into one. Conditions are joined by `AND`,
joins are put one after the other, and a clause that several attributes contribute is used once.
Only orderings are kept as often as they are given, because their order matters.

## Shape of the merge

`contributions` gathers the values of one key from all maps, in order and without the blank ones;
`fragments` reads fragments out of them and drops those without text. A `having` clause has no
place of its own in a statement: it is written behind the `group` clause, which defaults to the
primary key. Searches with joins select the rows of their base table once.
-/

namespace SearchQuery

/-- A merged option-map: at most one fragment for every clause, and the names of the
associations to load. -/
structure FindOptions where
  conditions : Option (Fragment Value) := none
  includes : Option (List Value) := none
  joins : Option (Fragment Value) := none
  group : Option (Fragment Value) := none
  order : Option (Fragment Value) := none
  select : Option (Fragment Value) := none
  deriving Inhabited

namespace FindOptions

/-- A merged option-map as a mapping. -/
def toValue (o : FindOptions) : Value :=
  let clause (key : String) (f : Option (Fragment Value)) : List (Value × Value) :=
    f.toList.map fun f => (.text key, .fragment f)
  .dict (clause "conditions" o.conditions ++
    o.includes.toList.map (fun names => (.text "include", .list names)) ++
    clause "joins" o.joins ++ clause "group" o.group ++ clause "order" o.order ++
    clause "select" o.select)

/-- What is known of the table that is searched. -/
structure Base where
  table : Option String := none
  primaryKey : Option String := none
  deriving Inhabited

/-- The entries of option-maps; `null` has none. -/
def entriesOf : Value → Except Failure (List (Value × Value))
  | .null => .ok []
  | .dict entries => .ok entries
  | _ => .error .noAttribute

/-- The values of one key, without the blank ones. -/
def contributions (entries : List (Value × Value)) (key : String) : List Value :=
  (entries.filter fun e => e.1.text? == some key && !isBlank e.2).map (·.2)

/-- The fragments of one key that have text. -/
def fragments (entries : List (Value × Value)) (key : String) :
    Except Failure (List (Fragment Value)) := do
  let fs ← (contributions entries key).mapM Fragment.ofValue
  return fs.filter (!·.isEmpty)

/-- The names that a value of the key `include` holds. -/
def includeNames : Value → List Value
  | .dict entries => entries.map (·.1)
  | .list items | .tuple items | .set items => items
  | v => [v]

/-- The names that values of the key `include` hold, each one once, unless there are no values. -/
def includedNames (vs : List Value) : Except Failure (Option (List Value)) :=
  if vs.isEmpty then .ok none
  else
    match Value.distinct? (vs.flatMap includeNames) with
    | some names => .ok (some names)
    | none => .error .badDecimal

/-- Join fragments, unless there are none. -/
def joinSome (separator : String) (wrap : Bool) (fs : List (Fragment Value)) :
    Option (Fragment Value) :=
  if fs.isEmpty then none else some (.join separator wrap fs)

/-- The groups of a merged option-map: those contributed, or the primary key of the table where
there is a `having` clause but no group. -/
def groupsFor (base : Base) (groups having : List (Fragment Value)) :
    Except Failure (List (Fragment Value)) :=
  if having.isEmpty || !groups.isEmpty then .ok groups
  else
    match base.primaryKey with
    | none => .error (.invalidFindOptions ["having"]
        (some "A having clause needs a group clause or a known primary key"))
    | some key =>
      let name := match base.table with
        | some t => if t.isEmpty then key else t ++ "." ++ key
        | none => key
      .ok [.ofSql name]

/-- The `group` clause, with the `having` clause behind it. -/
def groupClause (groups having : List (Fragment Value)) : Option (Fragment Value) :=
  (joinSome ", " false groups).map fun group =>
    match joinSome " AND " true having with
    | none => group
    | some clause =>
      { sql := group.sql ++ " HAVING " ++ clause.sql, params := group.params ++ clause.params }

/-- The `select` clause: the distinct rows of the table where joins would add the columns of
others. -/
def selectClause (base : Base) (select joins : List (Fragment Value)) :
    Option (Fragment Value) :=
  match joinSome ", " false select with
  | some f => some f
  | none =>
    match base.table with
    | some t => if joins.isEmpty || t.isEmpty then none else some (.ofSql ("DISTINCT " ++ t ++ ".*"))
    | none => none

/-- Merge option-maps in order. -/
def merge (base : Base) (maps : List Value) : Except Failure FindOptions := do
  let entries := (← maps.mapM entriesOf).flatten
  let conditions ← Fragment.distinct (← fragments entries "conditions")
  let includes ← includedNames (contributions entries "include")
  let joins ← Fragment.distinct (← fragments entries "joins")
  let having ← Fragment.distinct (← fragments entries "having")
  let contributed ← Fragment.distinct (← fragments entries "group")
  let groups ← groupsFor base contributed having
  -- Orderings are kept as often as they are given.
  let order ← fragments entries "order"
  let select ← Fragment.distinct (← fragments entries "select")
  return {
    conditions := joinSome " AND " true conditions
    includes
    joins := joinSome " " false joins
    group := groupClause groups having
    order := joinSome ", " false order
    select := selectClause base select joins }

end FindOptions

end SearchQuery
