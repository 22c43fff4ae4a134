import SearchQuery.Search.Schema

/-!
# Declarations

Search classes are made, bound to models and given attributes by the operations of this module.

## Shape of a declaration

A declaration is a computation on the registry that keeps the registry when it fails. A name in
a list of names is declared before the next one is looked at, so a failure leaves the names in
front of it declared. Binding a model declares the attributes that its bridge predefines; when
one of these declarations fails, the class gives back its schema and the members of the names
that are new.
-/

namespace SearchQuery

/-- A computation on the registry that keeps it when it fails. -/
abbrev Declaring := EStateM Failure Registry

/-- Names that a search attribute may not take, because every search has them. -/
def reservedNames : List String := [
  "attributes", "add_search_attribute", "before_find_options", "find_options",
  "find_options_for", "find_options_list", "ignore", "ignored", "register_before_find_options",
  "schema", "search_accessor", "search_attribute", "search_attributes", "set_attributes",
  "set_model", "truthy"]

/-- Whether a search attribute may have a name. -/
def isAttributeName (name : String) : Bool :=
  Text.isIdentifier name && name.toList.head? != some '_' && !reservedNames.contains name

/-- The options that a declaration may have left after rewriting. -/
def attributeOptions : List String := ["store_as", "default"]

namespace SearchClass

/-- The class with one attribute more. -/
def withAttribute (c : SearchClass) (b : Builder) : SearchClass :=
  let default := ((b.options.get? "default").map Setting.toValue).getD .ignored
  let conversion := (b.options.get? "store_as").bind Setting.toConversion?
  let members := putEntry c.members b.name (.attribute conversion)
  { c with
    schema := c.schema.register b.name default
    members := match b.block with
      | some block => putEntry members (contributionName b.name) (.contribution b.name block)
      | none => members }

/-- The class without the members of attributes that `schema` does not have, and with that
schema. -/
def restored (c : SearchClass) (schema : Schema) : SearchClass :=
  let fresh := c.schema.names.filter (!schema.names.contains ·)
  let gone (name : String) : Bool :=
    fresh.any fun n => name == n || name == contributionName n
  { c with schema, members := c.members.filter fun m => !gone m.1 }

end SearchClass

namespace Registry

/-- Fail with a cause, or go on with a result. -/
def lift {α : Type} (e : Except Failure α) : Declaring α :=
  Bridge.lift e

/-- Declare an attribute whose options have been rewritten. -/
def addAttribute (id : Nat) (b : Builder) : Declaring Unit := do
  let unknown := b.options.unknown attributeOptions
  if !unknown.isEmpty then throw (.ofOptions unknown)
  if !isAttributeName b.name then throw (.invalidAttributeName b.name)
  modify (·.update id (·.withAttribute b))

/-- Rewrite a declaration by the bridge of the class, if it has one. -/
def rewritten (c : SearchClass) (b : Builder) : Except Failure Builder :=
  match c.schema.bridge with
  | none => .ok b
  | some bridge =>
    match bridge.rewrite.run b with
    | .ok _ b => .ok b
    | .error e _ => .error e

/-- Declare one attribute: rewrite it, then add it. -/
def declare (id : Nat) (b : Builder) : Declaring Unit := do
  let r ← get
  addAttribute id (← lift (rewritten (r.find id) b))

/-- Declare attributes one after the other. -/
def declareAll (id : Nat) : List Builder → Declaring Unit
  | [] => pure ()
  | b :: bs => do
    declare id b
    declareAll id bs

/-- The names that the parameters of a declaration have. No option can have one of them. -/
def declarationParameters : List String := ["cls", "block"]

/-- Declare attributes that share their options and their block. -/
def accessor (id : Nat) (names : List Value) (options : Options) (block : Option Hook) :
    Declaring Unit := do
  if options.uses declarationParameters then throw .wrongType
  let texts ← lift (names.mapM fun n =>
    match n with
    | .text s => .ok s
    | v => .error (.attributeNameNotText v))
  declareAll id (texts.map fun name => { name, options, block })

/-- Declare one attribute with a block; its name is a parameter too. -/
def accessorOf (id : Nat) (name : Value) (options : Options) (block : Option Hook) :
    Declaring Unit := do
  if options.uses ["name"] then throw .wrongType
  accessor id [name] options block

/-- Declare an attribute by a builder, which has options and a block of its own. -/
def accessorBuilder (id : Nat) (b : Builder) (options : Options) (block : Option Hook) :
    Declaring Unit := do
  if options.uses declarationParameters then throw .wrongType
  if block.isSome || !options.isEmpty then throw .builderWithOptions
  declare id b

/-- Bind a class to a model, once. -/
def setModel (current : Config) (id : Nat) (m : Model) (options : Options) : Declaring Unit := do
  if options.uses ["cls", "model"] then throw .wrongType
  let c := (← get).find id
  match c.schema.model with
  | some bound => throw (.modelAlreadySet c.name bound.toValue)
  | none =>
    let bridge ← lift (bridgeFor current m)
    let schema := c.schema
    modify (·.update id fun c =>
      { c with schema := { c.schema with model := some m, bridge := some bridge } })
    try
      declareAll id (← lift (bridge.automatic options))
    -- Nothing of a binding that fails is kept but members that were declared anew.
    catch e =>
      modify (·.update id (·.restored schema))
      throw e

/-- Append callbacks. -/
def addCallbacks (id : Nat) (callbacks : List Callback) : Declaring Unit :=
  modify (·.update id fun c =>
    { c with schema := { c.schema with callbacks := c.schema.callbacks ++ callbacks } })

/-- The model that a subclass is bound to: the one given, or else the value of an option of that
name. `null` is none. -/
def modelFor (m : Option Model) (options : Options) : Option Model :=
  let chosen := match m with
    | some m => some m
    | none => (options.get? "model").map fun s => Model.value (Setting.toValue s)
  match chosen with
  | some (.value .null) => none
  | chosen => chosen

/-- Make a subclass with methods of its own, bound to a model if there is one. A failure leaves
no class behind. A method cannot take the place of the schema. -/
def subclass (current : Config) (name : String) (parent : Nat) (methods : List (String × Hook))
    (m : Option Model) (given : Options) : Declaring Nat := do
  if methods.any (·.1 == "schema") then throw .noAttribute
  if given.uses ["cls"] then throw .wrongType
  let before ← get
  let p := before.find parent
  let id := before.classes.length
  let made : SearchClass := {
    name, ancestors := parent :: p.ancestors, schema := p.schema
    members := methods.map fun m => (m.1, .method m.2) }
  set ({ classes := before.classes ++ [made] } : Registry)
  try
    let options := given.erase "model"
    match modelFor m given with
    | some m => setModel current id m options
    | none =>
      if !options.isEmpty then
        throw (.optionsWithoutModel (Failure.sortNames (options.map (·.1))))
    return id
  -- The class is only handed out when it is complete.
  catch e =>
    set before
    throw e

end Registry

end SearchQuery
