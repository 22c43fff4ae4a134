import SearchQuery.Value.Basic

/-!
# Tables under construction

A document fills its tables statement by statement. Which statements are allowed depends on how a
table came to be, so the paths of tables are remembered together with their contents.

## Shape of the bookkeeping

A path is *declared* when a header names it, or once a key with points has led through it and a
header follows. A declared path may not be declared again, nor may keys with points lead through
it. A path is *closed* when an array or a table in braces is assigned to it; nothing may be added
at or below it. A new element of an array of tables forgets what is known of the paths below the
array.
-/

namespace SearchQuery.Toml

/-- A path of keys from the root of a document. -/
abbrev Path := List String

/-- The entries of a table. -/
abbrev Entries := List (Value × Value)

/-- Write the value of a key, which keeps its place. -/
def putKey (entries : Entries) (key : String) (value : Value) : Entries :=
  Value.insertEntry entries (.text key) value

/-- Change the table at a path, where missing tables are made. Paths lead through the last element
of an array of tables if `intoArrays` is set, and through no other value that is not a table. -/
def modifyAt (intoArrays : Bool) (change : Entries → Option Entries) :
    Path → Entries → Option Entries
  | [], entries => change entries
  | key :: path, entries =>
    match Value.lookupText entries key with
    | none => (modifyAt intoArrays change path []).map fun e => putKey entries key (.dict e)
    | some (.dict inner) =>
      (modifyAt intoArrays change path inner).map fun e => putKey entries key (.dict e)
    -- A path leads into the last table of an array of tables.
    | some (.list items) =>
      match if intoArrays then items.getLast? else none with
      | some (.dict inner) =>
        (modifyAt intoArrays change path inner).map fun e =>
          putKey entries key (.list (items.dropLast ++ [.dict e]))
      | _ => none
    | some _ => none

/-- Add a key to a table that does not have it. -/
def addKey (key : String) (value : Value) (entries : Entries) : Option Entries :=
  if (Value.lookupText entries key).isSome then none else some (putKey entries key value)

/-- Add an empty element to an array of tables, which is made if it is missing. -/
def addElement (key : String) (entries : Entries) : Option Entries :=
  match Value.lookupText entries key with
  | none => some (putKey entries key (.list [.dict []]))
  | some (.list items) => some (putKey entries key (.list (items ++ [.dict []])))
  | some _ => none

/-- The state of a document: its root table, the declared and the closed paths, the paths that
the next header declares, and the path of the table that is being filled. -/
structure Draft where
  root : Entries := []
  declared : List Path := []
  closed : List Path := []
  pending : List Path := []
  header : Path := []
  deriving Inhabited

namespace Draft

/-- Whether a path was declared. -/
def isDeclared (d : Draft) (path : Path) : Bool :=
  d.declared.contains path

/-- Whether a path is closed or lies below a closed one. -/
def isClosed (d : Draft) (path : Path) : Bool :=
  d.closed.any (·.isPrefixOf path)

/-- Declare the pending paths, as every header does. -/
def settle (d : Draft) : Draft :=
  { d with declared := d.pending ++ d.declared, pending := [] }

/-- Start a table by its header. -/
def openTable (d : Draft) (path : Path) : Option Draft := do
  let d := d.settle
  if d.isDeclared path || d.isClosed path then none
  let root ← modifyAt true some path d.root
  return { d with root, declared := path :: d.declared, header := path }

/-- Start a new element of an array of tables by its header. -/
def openElement (d : Draft) (path : Path) : Option Draft := do
  let d := d.settle
  if d.isClosed path then none
  let last ← path.getLast?
  let root ← modifyAt true (addElement last) path.dropLast d.root
  let below (p : Path) : Bool := path.isPrefixOf p
  return { d with
    root
    declared := path :: d.declared.filter (!below ·)
    closed := d.closed.filter (!below ·)
    header := path }

/-- The paths that a key with points leads through, from the header on. -/
def through (header : Path) (key : Path) : List Path :=
  (List.range (key.length - 1)).map fun i => header ++ key.take (i + 1)

/-- Whether a value closes the path it is assigned to. -/
def closes : Value → Bool
  | .dict _ | .list _ => true
  | _ => false

/-- Assign a value to a key of the table that is being filled. -/
def assign (d : Draft) (key : Path) (value : Value) : Option Draft := do
  let passed := through d.header key
  if passed.any d.isDeclared then none
  let parent := d.header ++ key.dropLast
  if d.isClosed parent then none
  let last ← key.getLast?
  let root ← modifyAt true (addKey last value) parent d.root
  return { d with
    root
    pending := passed ++ d.pending
    closed := if closes value then (d.header ++ key) :: d.closed else d.closed }

end Draft

/-- Assign a value to a key of a table in braces. Paths in `closed` may not be extended. -/
def assignInline (entries : Entries) (closed : List Path) (key : Path) (value : Value) :
    Option (Entries × List Path) := do
  if closed.any (·.isPrefixOf key) then none
  let last ← key.getLast?
  let entries ← modifyAt false (addKey last value) key.dropLast entries
  return (entries, if Draft.closes value then key :: closed else closed)

end SearchQuery.Toml
