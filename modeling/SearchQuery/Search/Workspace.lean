import SearchQuery.Search.Composition

/-!
# Workspaces

A workspace holds everything that a program which searches holds on to: the search classes and
the searches by name, the implicit classes of models, the current configuration, the lines that
hooks have noted, and the last label that a NaN was given.

## Shape of an operation

Operations on the workspace keep what they have done when they fail. `declaring` runs a
declaration on the registry, and `onSearch` runs an operation on one search, so no operation on a
search changes a class. A search that is made for one operation only is never kept.
-/

namespace SearchQuery

/-- The state of a program that searches. Classes are known by their place in the registry. -/
structure Workspace where
  registry : Registry := {}
  classes : List (String × Nat) := [("Search", Registry.root)]
  searches : List (String × Nat × Search) := []
  implicit : List (String × Nat) := []
  config : Config := {}
  journal : List String := []
  labels : Nat := Value.firstLabel - 1
  deriving Inhabited

/-- A computation on a workspace that keeps it when it fails. -/
abbrev Working := EStateM Failure Workspace

namespace Workspace

/-- The class of a name. -/
def class? (w : Workspace) (name : String) : Option Nat :=
  w.classes.lookup name

/-- The search of a name, with the class it belongs to. -/
def search? (w : Workspace) (name : String) : Option (Nat × Search) :=
  w.searches.lookup name

/-- Let a name stand for a class. -/
def nameClass (name : String) (id : Nat) : Working Unit :=
  modify fun w => { w with classes := putEntry w.classes name id }

/-- Run a declaration. -/
def declaring {α : Type} (act : Declaring α) : Working α := fun w =>
  match act w.registry with
  | .ok a r => .ok a { w with registry := r }
  | .error e r => .error e { w with registry := r }

/-- Run an operation on a search of a class. It takes up the labels of the workspace, and the lines
it has noted move there. -/
def searching {α : Type} (id : Nat) (s : Search) (act : ClassView → Searching α) :
    Working (Except Failure α × Search) := fun w =>
  let noted (s : Search) : Workspace :=
    { w with journal := w.journal ++ s.journal, labels := s.labels }
  let quiet (s : Search) : Search := { s with journal := [] }
  match act (w.registry.view id) { s with labels := w.labels } with
  | .ok a s => .ok (.ok a, quiet s) (noted s)
  | .error e s => .ok (.error e, quiet s) (noted s)

/-- Keep a search under a name. -/
def keep (name : String) (id : Nat) (s : Search) : Working Unit :=
  modify fun w => { w with searches := putEntry w.searches name (id, s) }

/-- Run an operation on the search of a name. -/
def onSearch {α : Type} (name : String) (act : ClassView → Searching α) : Working α := do
  match (← get).search? name with
  | none => throw .unknownName
  | some (id, s) =>
    let (result, s) ← searching id s act
    keep name id s
    Bridge.lift result

/-- Run an operation on a search of a class that is made for it alone. -/
def onFreshSearch {α : Type} (id : Nat) (act : ClassView → Searching α) : Working α := do
  let (result, _) ← searching id {} act
  Bridge.lift result

/-- Make a search and keep it under a name. A failure keeps nothing. -/
def create (name : String) (id : Nat) (attributes : Value) (values : List (String × Value)) :
    Working Unit := do
  let (result, s) ← searching id {} fun c => Search.make c attributes values
  Bridge.lift result
  keep name id s

/-- Make a search class and let its name stand for it. -/
def subclass (name : String) (parent : Nat) (methods : List (String × Hook)) (m : Option Model)
    (options : Options) : Working Unit := do
  let id ← declaring (Registry.subclass (← get).config name parent methods m options)
  nameClass name id

/-- Bind a class to a model. -/
def setModel (id : Nat) (m : Model) (options : Options) : Working Unit := do
  declaring (Registry.setModel (← get).config id m options)

/-! ## Implicit classes -/

/-- Whether a value can be the owner of an implicit class as far as its sort goes. Most values
cannot be kept track of. -/
def isOwner : Value → Bool
  | .fragment f => Value.isKey (.fragment f)
  | .ignored | .pattern _ | .model _ => true
  | _ => false

/-- The implicit search class of a model, which is made when it is first asked for. -/
def searchClass (m : Model) : Working Nat := do
  match m.className? with
  | none => throw (if isOwner m.toValue then .noAttribute else .wrongType)
  | some model =>
    match (← get).implicit.lookup model with
    | some id => return id
    | none =>
      let id ← declaring
        (Registry.subclass (← get).config (model ++ "Search") Registry.root [] (some m) [])
      modify fun w => { w with implicit := putEntry w.implicit model id }
      return id

/-- The implicit search class of a model that takes declarations itself. -/
def searchableClass (m : Model) : Working Nat :=
  if m.table?.any (·.searchable) then searchClass m else throw .noAttribute

/-- Merge options with the conditions of an ordinary query. `null` and mappings are values of
search attributes of the model's implicit class; any other value is a condition. -/
def scopedOptions (m : Model) (conditions : Value) (options : List (Value × Value)) : Working Value := do
  let id ← searchClass m
  let bridge ← Bridge.lift (Search.bridge ((← get).registry.view id))
  let compose (options : Value) (maps : List Value) : Working Value := do
    Bridge.lift (bridge.validate options)
    Bridge.lift (bridge.merge maps)
  match conditions with
  | .null | .dict _ =>
    let scope ← onFreshSearch id fun c => do
      Search.make c conditions []
      Search.optionMaps c
    -- The options are checked by themselves, and merged behind what the scope contributes.
    compose (.dict options) (scope ++ [.dict options])
  | v =>
    -- Conditions of any other kind are one more entry of the options, and there is no search.
    let own := Value.dict ((.text "conditions", v) :: options)
    compose own [own]

end Workspace

end SearchQuery
