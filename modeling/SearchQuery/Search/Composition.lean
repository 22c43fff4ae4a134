import SearchQuery.Search.Callback

/-!
# Composing the options of a search

A search is made from values for its attributes, and composes the option-maps that its
attributes contribute into one.

## Shape of a composition

`ownFindOptionsList` runs the callbacks and then asks every attribute that is not ignored for its
option-map, in order of first declaration. Each map is checked before the next attribute is
asked. `ownFindOptions` merges the list as the bridge of the model does. A class may have methods
that take the place of the two, so `findOptionsList` and `findOptions` may give any value.

Callbacks may compose options themselves, and so start the chain of callbacks anew. How often they can
do so before the machine runs out of calls is bounded, and `again` is defined by recursion on this
bound. All operations are told by what is done before the attributes are asked, and the operations of
a search are these behind its callbacks.
-/

namespace SearchQuery.Search

/-- The members of an entry given as a collection. -/
def pairOf (v : Value) : Except Failure (Value × Value) :=
  match v.items? with
  | none => .error .wrongType
  | some [k, w] => if k.isKey then .ok (k, w) else .error .wrongType
  | some _ => .error .badValue

/-- The entries that a value holds: those of a mapping, or pairs that can be taken one by one, as a
mapping keeps them. A value that counts as false holds none. -/
def entriesOf (v : Value) : Except Failure (List (Value × Value)) :=
  if !v.truthy then .ok []
  else
    match v with
    | .dict entries => .ok entries
    | v =>
      match v.items? with
      | some items => (items.mapM pairOf).map Value.mergedEntries
      | none => .error .wrongType

/-- The value that a new search gives an attribute: the one supplied, or the default. -/
def initial (c : ClassView) (supplied : List (String × Value)) (name : String) : Value :=
  match supplied.lookup name with
  | some v => v
  | none => (c.schema.defaults.lookup name).getD .ignored

/-- Make a search from a value that holds entries and from values by name, which come last. -/
def make (c : ClassView) (attributes : Value) (values : List (String × Value)) :
    Searching Unit := do
  if c.schema.model.isNone then throw (.modelNotSet c.name)
  let given ← lift (entriesOf attributes >>= byName)
  let supplied := values.foldl (fun named p => putEntry named p.1 p.2) given
  checkNames c (supplied.map (·.1))
  assignAll c (c.schema.uniqueNames.map fun name => (name, initial c supplied name))

/-- The entries of the mapping of all attributes. A method that hides the mapping has none. -/
def attributes (c : ClassView) : Searching (List (Value × Value)) := do
  match ← read c "attributes" with
  | .dict entries => return entries
  | _ => throw .noAttribute

/-- The values of the search attributes that are not ignored. -/
def givenAttributes (c : ClassView) : Searching (List (Value × Value)) := do
  return (← attributes c).filter (!·.2.isIgnored)

/-- The option-maps of the attributes in a list, without those that are ignored. Each map is
checked as it comes. -/
def contributions (c : ClassView) (validate : Value → Except Failure Unit) :
    List String → Searching (List Value)
  | [] => return []
  | name :: names => do
    if ← ignored c name then contributions c validate names
    else
      let options ← findOptionsFor c name
      lift (validate options)
      return options :: (← contributions c validate names)

/-- The bridge of the class's model. A class without a model has none. -/
def bridge (c : ClassView) : Except Failure Bridge :=
  match c.schema.bridge with
  | some b => .ok b
  | none => .error .noAttribute

/-! ## Composing behind what comes first -/

/-- The option-maps of all attributes that are not ignored. -/
def ownListBehind (c : ClassView) (first : Searching Unit) : Searching (List Value) := do
  first
  contributions c (fun v => (bridge c).bind fun b => b.validate v) c.schema.uniqueNames

/-- The option-maps of the search. -/
def listBehind (c : ClassView) (first : Searching Unit) : Searching Value :=
  orHiding c "find_options_list" (return .list (← ownListBehind c first))

/-- The option-maps of the search as a list. -/
def mapsBehind (c : ClassView) (first : Searching Unit) : Searching (List Value) := do
  match (← listBehind c first).items? with
  | some maps => return maps
  | none => throw .wrongType

/-- The option-maps of the search, merged. -/
def ownMergedBehind (c : ClassView) (first : Searching Unit) : Searching Value := do
  let maps ← mapsBehind c first
  lift ((bridge c).bind fun b => b.merge maps)

/-- The merged option-map of the search. -/
def mergedBehind (c : ClassView) (first : Searching Unit) : Searching Value :=
  orHiding c "find_options" (ownMergedBehind c first)

/-- What the operations that compose options do where a callback calls them and they can be started
so many times more. -/
def again (c : ClassView) : Nat → Again
  | 0, _ => throw .endlessRecursion
  | n + 1, operation =>
    let first := runChain c (again c n)
    if operation == "find_options" then mergedBehind c first else listBehind c first

/-! ## The operations of a search -/

/-- Run the callbacks and the search's own hook. -/
def runBeforeFindOptions (c : ClassView) : Searching Unit :=
  runChain c (again c c.depth)

/-- Run the callbacks, then collect the option-maps of all attributes that are not ignored. -/
def ownFindOptionsList (c : ClassView) : Searching (List Value) :=
  ownListBehind c (runBeforeFindOptions c)

/-- The option-maps of the search. -/
def findOptionsList (c : ClassView) : Searching Value :=
  listBehind c (runBeforeFindOptions c)

/-- The option-maps of the search as a list. -/
def optionMaps (c : ClassView) : Searching (List Value) :=
  mapsBehind c (runBeforeFindOptions c)

/-- The option-maps of the search, merged. -/
def ownFindOptions (c : ClassView) : Searching Value :=
  ownMergedBehind c (runBeforeFindOptions c)

/-- The merged option-map of the search. -/
def findOptions (c : ClassView) : Searching Value :=
  mergedBehind c (runBeforeFindOptions c)

/-- The name of the class with the attributes that are not ignored. A number in it may be too long
to be written. -/
def literal (c : ClassView) : Searching String := do
  let given := Value.dict (← givenAttributes c)
  if given.isTooLong then throw .badValue
  return c.name ++ "(" ++ given.literal ++ ")"

end SearchQuery.Search
