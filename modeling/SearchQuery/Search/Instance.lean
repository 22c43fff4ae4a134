import SearchQuery.Search.Declaration

/-!
# Searches

A search is an instance of a search class: it holds a value for every search attribute. An
attribute that was not given is ignored and takes no part in the search.

## Shape of a search

`values` holds the values of search attributes. A value that is assigned to a name that is no
search attribute is kept in `extras`, where it hides a method of that name. `journal` holds the
lines that hooks have noted, and `labels` is the last label that a NaN was given. Operations on a
search keep what they have done when they fail. They read the class through a `ClassView`, so
declarations made after the search are seen: a declared attribute may have no value yet.

## Shape of an operation

A value or a method of the class may hide an operation that every search has. Then whoever asks
for the operation gets what hides it. None of the things that can hide an operation takes an
argument, so operations on an attribute fail (`ownOnly`), and the others run what hides them
(`orHiding`).
-/

namespace SearchQuery

/-- The state of a search. -/
structure Search where
  values : List (String × Value) := []
  extras : List (String × Value) := []
  journal : List String := []
  labels : Nat := Value.firstLabel - 1
  deriving Inhabited

/-- A computation on a search that keeps it when it fails. -/
abbrev Searching := EStateM Failure Search

namespace Search

/-- Fail with a cause, or go on with a result. -/
def lift {α : Type} (e : Except Failure α) : Searching α :=
  Bridge.lift e

/-- A label that no NaN has yet. -/
def freshLabel : Searching Nat :=
  modifyGet fun s => (s.labels + 1, { s with labels := s.labels + 1 })

/-- Note a line. -/
def note (line : String) : Searching Unit :=
  modify fun s => { s with journal := s.journal ++ [line] }

/-- Fail if one of the names is no search attribute. -/
def checkNames (c : ClassView) (names : List String) : Searching Unit :=
  let unknown := names.filter (!c.schema.declares ·)
  if unknown.isEmpty then pure () else throw (.unknownAttributes c.name unknown)

/-! ## Names of a search -/

/-- What a name of the search stands for when it is called: a value, which hides any method, or
a member. -/
inductive Callee where
  | value (v : Value)
  | member (m : Member)

/-- Look up what is called by a name, operations of every search apart. An attribute without a
value is nothing. -/
def callee? (c : ClassView) (s : Search) (name : String) : Option Callee :=
  match c.member? name with
  | some (.attribute _) => (s.values.lookup name).map .value
  | m =>
    match s.extras.lookup name with
    | some v => some (.value v)
    | none => m.map .member

/-- Fail if something hides an operation that takes an argument. -/
def ownOnly (c : ClassView) (operation : String) : Searching Unit := do
  if (callee? c (← get) operation).isSome then throw .wrongType

/-- The value that a name stands for. That of a method or an operation is only known to count as
true. -/
def valueOf (c : ClassView) (name : String) : Searching Value := do
  match callee? c (← get) name with
  | some (.value v) => return v
  | some (.member _) => return .bool true
  | none =>
    if (c.member? name).isNone && reservedNames.contains name then return .bool true
    else throw .noAttribute

/-- Values by name as a mapping. -/
def toDict (values : List (String × Value)) : Value :=
  .dict (values.map fun p => (.text p.1, p.2))

/-- The values of all search attributes, in order of first declaration. -/
def allAttributes (c : ClassView) : Searching Value := do
  return toDict (← c.schema.uniqueNames.mapM fun name => do return (name, ← valueOf c name))

/-- Whether a member of the class hides the mapping of all attributes. -/
def hidesAttributes (c : ClassView) : Bool :=
  (c.member? "attributes").isSome

/-- Read an attribute of the search, or the mapping of all its search attributes. -/
def read (c : ClassView) (name : String) : Searching Value :=
  if name == "attributes" && !hidesAttributes c then allAttributes c else valueOf c name

/-- What a search attribute stores for a value: its conversion, unless the value is ignored. -/
def stored (conversion : Option Conversion) (v : Value) : Except Failure Value :=
  match conversion with
  | some f => if v.isIgnored then .ok v else f v
  | none => .ok v

/-- Assign to an attribute of the search. -/
def assign (c : ClassView) (name : String) (v : Value) : Searching Unit := do
  match c.member? name with
  | some (.attribute conversion) =>
    let v ← lift (stored conversion v)
    let v := v.labelled (← freshLabel)
    modify fun s => { s with values := putEntry s.values name v }
  | _ =>
    if name == "attributes" && !hidesAttributes c then throw .noAttribute
    else modify fun s => { s with extras := putEntry s.extras name v }

/-! ## Operations on an attribute -/

/-- The value of a search attribute as it is stored. -/
def storedValue (c : ClassView) (name : String) : Searching Value := do
  checkNames c [name]
  match (← get).values.lookup name with
  | some v => return v
  | none => throw .noKey

/-- Whether a search attribute takes no part in the search. -/
def ignored (c : ClassView) (name : String) : Searching Bool := do
  ownOnly c "ignored"
  return (← storedValue c name).isIgnored

/-- Make a search attribute take no part in the search. -/
def ignore (c : ClassView) (name : String) : Searching Unit := do
  ownOnly c "ignore"
  checkNames c [name]
  modify fun s => { s with values := putEntry s.values name .ignored }

/-- Make search attributes take no part in the search, one after the other. -/
def ignoreEach (c : ClassView) : List String → Searching Unit
  | [] => pure ()
  | name :: names => do
    ignore c name
    ignoreEach c names

/-- Make all search attributes take no part in the search. -/
def ignoreAll (c : ClassView) : Searching Unit := do
  ownOnly c "search_attributes"
  ignoreEach c c.schema.names

/-- Whether the value of a search attribute counts as true. -/
def truthy (c : ClassView) (name : String) : Searching Bool := do
  ownOnly c "truthy"
  return (← storedValue c name).truthy

/-! ## Operations on several attributes -/

/-- Entries by the texts of their keys; of keys with the same text the last one counts. -/
def byName (entries : List (Value × Value)) : Except Failure (List (String × Value)) :=
  entries.foldlM (fun named e => e.1.written.map (putEntry named · e.2)) []

/-- Give attributes their values, one after the other. -/
def assignAll (c : ClassView) : List (String × Value) → Searching Unit
  | [] => pure ()
  | (name, v) :: rest => do
    assign c name v
    assignAll c rest

/-- Assign to several search attributes at once. All names are checked first. -/
def setAttributes (c : ClassView) (v : Value) : Searching Unit := do
  ownOnly c "set_attributes"
  match v with
  | .dict entries =>
    let named ← lift (byName entries)
    checkNames c (named.map (·.1))
    assignAll c named
  | _ => throw .noAttribute

end Search

/-! ## Code of a search -/

/-- Run code on behalf of a search. -/
def Hook.run (c : ClassView) : Hook → Searching Value
  | done v => pure v
  | fail e => throw e
  | read name next => do
    let v ← Search.read c name
    (next v).run c
  | write name v next => do
    Search.assign c name v
    next.run c
  | ignore name next => do
    Search.ignore c name
    next.run c
  | note line next => do
    Search.note line
    next.run c
  | ignoreAll next => do
    Search.ignoreAll c
    next.run c
  | label next => do
    let n ← Search.freshLabel
    (next n).run c

namespace Search

/-- Call a value without arguments. Only a class can be called, and what it makes is only known to
count as true. -/
def callValue : Value → Searching Value
  | .model _ => return .bool true
  | _ => throw .wrongType

/-- Run a member of the class as a method without arguments. The contribution of an attribute
that is ignored is empty, and an attribute is no method. -/
def runMember (c : ClassView) : Member → Searching Value
  | .attribute _ => throw .wrongType
  | .contribution name block => do
    if ← ignored c name then return .dict [] else block.run c
  | .method hook => hook.run c

/-- Call what a name stands for, without arguments. -/
def Callee.run (c : ClassView) : Callee → Searching Value
  | value v => callValue v
  | member m => runMember c m

/-- Run an operation that takes no argument, or what hides it. -/
def orHiding (c : ClassView) (operation : String) (own : Searching Value) : Searching Value := do
  match callee? c (← get) operation with
  | some callee => callee.run c
  | none => own

/-- What a search attribute contributes. -/
def findOptionsFor (c : ClassView) (name : String) : Searching Value := do
  ownOnly c "find_options_for"
  checkNames c [name]
  match callee? c (← get) (contributionName name) with
  | none | some (.value .null) => throw (.undefinedFindOptions name)
  | some callee => callee.run c

end Search

end SearchQuery
