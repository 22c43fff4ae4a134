import SearchQuery.Command.Parse
import SearchQuery.Json.Reader
import SearchQuery.Search.Workspace
import SearchQuery.Statement.Loading

/-!
# The command `compose`

`compose` shows the option-map that a search composes. Its target is a search class, written
`module:SearchClass`, and its other arguments are values of search attributes, written
`NAME=VALUE`. A value that can be read as JSON is what it says in JSON, and a text otherwise.

## Shape of a module

A module declares its search classes when it is loaded, which happens after the configuration is
known. So a `Module` is a function from configurations to workspaces. The names in a target have
points between them, and every front part of it must be a module too.
-/

namespace SearchQuery.Command

/-- A module that targets may name. -/
structure Module where
  name : String
  isPackage : Bool := false
  load : Config → Workspace
  deriving Inhabited

/-! ## Assignments -/

/-- Why assignments cannot be used: an argument is no assignment, or a value fails. -/
inductive AssignmentError where
  | unreadable (message : String)
  | failed (cause : Failure)
  deriving Inhabited

/-- What a text is read as. A text that says nothing in JSON stands for itself; but what is too much
for the reader is no such text. -/
def decoded (m : Machine) (raw : String) : Except AssignmentError Datum :=
  match JsonText.read m raw with
  | .ok v => .ok v
  | .error .malformed => .ok (.text (Piece.ofText raw))
  | .error .tooManyDigits => .error (.failed .badValue)
  | .error .tooDeep => .error (.failed .endlessRecursion)

/-- What `NAME=VALUE` assigns. -/
def assignment (m : Machine) (arg : String) : Except AssignmentError (String × Datum) := do
  let cs := arg.toList
  let name := cs.takeWhile (· != '=')
  if name.isEmpty || name.length == cs.length then
    throw (.unreadable ("expected NAME=VALUE, got " ++ Text.quoted arg))
  return (String.ofList name, ← decoded m (String.ofList (cs.drop (name.length + 1))))

/-- What arguments assign; of assignments to the same name the last one counts. -/
def parseAssignments (m : Machine) (args : List String) :
    Except AssignmentError (List (String × Datum)) :=
  args.foldlM (fun data arg => do
    let (name, v) ← assignment m arg
    return putEntry data name v) []

/-- The values that arguments assign, after the given ones. -/
def assignments (values : List (String × Value)) (args : List String) (m : Machine := {}) :
    Except AssignmentError (List (String × Value)) := do
  let data ← parseAssignments m args
  return data.foldl (fun values e => putEntry values e.1 e.2.toValue) values

namespace Compose

/-! ## Targets -/

/-- The front parts of the name of a module, the shortest first, with what each one is a part of. -/
def fronts (name : String) : List (Option String × String) :=
  let parts := name.splitOn "."
  let front (n : Nat) : String := ".".intercalate (parts.take n)
  (List.range parts.length).map fun n => (if n == 0 then none else some (front n), front (n + 1))

/-- What is wrong with the front part of a name, if anything. -/
def missing? (modules : List Module) (front : Option String × String) : Option String :=
  let absent := "No module named " ++ Text.quoted front.2
  if modules.any (·.name == front.2) then none
  else
    match front.1.bind fun outer => modules.find? (·.name == outer) with
    | some outer =>
      if outer.isPackage then some absent
      else some (absent ++ "; " ++ Text.quoted outer.name ++ " is not a package")
    | none => some absent

/-- The module of a name, or what is wrong with the name. -/
def module? (modules : List Module) (name : String) : Except String Module :=
  match (fronts name).findSome? (missing? modules) with
  | some message => .error message
  | none =>
    match modules.find? (·.name == name) with
    | some m => .ok m
    | none => .error ("No module named " ++ Text.quoted name)

/-- The workspace and the class of a target. -/
def target (modules : List Module) (config : Config) (s : String) :
    Except String (Workspace × Nat) :=
  let cs := s.toList
  let moduleName := String.ofList (cs.takeWhile (· != ':'))
  let className := String.ofList (cs.drop (moduleName.length + 1))
  if moduleName.isEmpty || className.isEmpty then .error "expected module:SearchClass"
  else
    match module? modules moduleName with
    | .error message => .error ("can't import " ++ moduleName ++ ": " ++ message)
    | .ok m =>
      let w := m.load config
      match w.class? className with
      | some id => .ok (w, id)
      | none => .error (className ++ " is not a Search class in " ++ moduleName)

/-- Whether a target names a module relative to another one, which there is not. -/
def isRelative (s : String) : Bool :=
  s.toList.head? == some '.' && (s.toList.dropWhile (· != ':')).length > 1

/-! ## Results -/

/-- A fragment as it is shown in JSON. -/
def fragmentValue (f : Fragment Value) : Value :=
  .dict [(.text "sql", .text f.sql), (.text "params", .list f.params)]

mutual

/-- A value as it is shown in JSON: fragments in it are shown with their parameters. -/
def shownValue : Value → Value
  | .fragment f => fragmentValue f
  | .list items => .list (shownValues items)
  | .tuple items => .list (shownValues items)
  | v => v

/-- Values as they are shown in JSON. -/
def shownValues : List Value → List Value
  | [] => []
  | v :: vs => shownValue v :: shownValues vs

end

/-- A value in a cell of a table. -/
def cell : Value → String
  | .fragment f =>
    Markup.styledText "sql" f.sql ++
      if f.params.isEmpty then ""
      else "\n" ++ Markup.styledText "sql.params" (Value.list f.params).literal
  | v => Markup.escape v.display

/-- The entries of an option-map. -/
def entries (options : Value) : Running (List (Value × Value)) :=
  match options.entries? with
  | some es => return es
  | none => throw (.failed .noAttribute)

/-- Show an option-map and a statement as JSON. -/
def showJson (options : Value) (sql : Option (Fragment Value)) : Running Unit := do
  let shown := (← entries options).map fun e => (e.1, shownValue e.2)
  let statement := sql.toList.map fun f => (Value.text "statement", fragmentValue f)
  Running.echo (← Running.orStop (JsonText.text (.dict (shown ++ statement))))

/-- Show an option-map and a statement as tables. -/
def showTable (title : String) (options : Value) (sql : Option (Fragment Value)) :
    Running Unit := do
  if !options.truthy then Running.info (Markup.escape title ++ " has no find options")
  else
    let rows := (← entries options).map fun e => (e.1.display, cell e.2)
    Running.present .output (.table (Markup.escape title) rows)
  match sql with
  | some f => Running.fragment f ""
  | none => pure ()

/-- The statement of an option-map. Tells if the model has none. -/
def statement (m : Option Model) (options : Value) :
    Running (Except Failure (Option (Fragment Value))) :=
  match m.bind Model.table? with
  | some t => return (Statement.ofOptions t options).map some
  | none => do
    let shown := ((m.map Model.toValue).getD .null).literal
    Running.info (shown ++ " is not a SQLAlchemy model, no statement to show")
    return .ok none

/-! ## The command -/

/-- The options of the command. -/
def options : List OptionSpec := [
  { key := "statement", long := "--statement", short := some 's' },
  formatOption]

/-- Stop because an argument makes no sense. -/
def refuse {α : Type} (message : String) : Running α := do
  Running.error message
  Running.exit Running.mistakeCode

/-- Go on with a result. A failure of searching is reported, any other one stops the run. -/
def orReport {α : Type} : Except Failure α → Running α
  | .ok a => pure a
  | .error e =>
    if e.kind?.isSome then do
      Running.error e.message
      Running.exit Running.failureCode
    else throw (.failed e)

/-- Compose a search, and give back its option-map, its text and its model. -/
def composed (w : Workspace) (id : Nat) (values : List (String × Value)) :
    Except Failure (Value × Except Failure String × Option Model) :=
  let c := w.registry.view id
  let act : Searching Value := do
    Search.make c (Search.toDict values) []
    Search.findOptions c
  match act { labels := w.labels } with
  | .error e _ => .error e
  | .ok options s =>
    -- The search is shown as the callbacks have left it.
    let title := match Search.literal c s with
      | .ok t _ => .ok t
      | .error e _ => .error e
    .ok (options, title, c.schema.model)

/-- Run the command. -/
def run (modules : List Module) (config : Config) (args : List String) : Running Unit := do
  let a ← sorted options args
  let (name, rest) ← match a.others with
    | [] => Running.exit Running.failureCode
    | name :: rest => pure (name, rest)
  let json ← wantsJson a
  -- A relative module name needs a package, and the import fails before anything is looked up.
  if isRelative name then throw (.failed .wrongType)
  let (w, id) ← match target modules config name with
    | .ok found => pure found
    | .error message => refuse ("Invalid value for TARGET: " ++ message)
  let values ← match assignments [] rest with
    | .ok values => pure values
    | .error (.unreadable message) => refuse ("Invalid value: " ++ message)
    | .error (.failed e) => throw (.failed e)
  let names := (w.registry.view id).schema.names
  Running.detail ("Search attributes: " ++ ", ".intercalate names)
  let (options, title, m) ← orReport (composed w id values)
  let sql ← if a.has "statement" then orReport (← statement m options) else pure none
  if json then showJson options sql else showTable (← Running.orStop title) options sql
  Running.exit Running.successCode

end Compose

end SearchQuery.Command
