import SearchQuery.Search.Expression
import SearchQuery.Search.Instance

/-!
# Callbacks

Before a search composes its options it runs its callbacks, in order, until one of them returns
false. Then it runs its own hook, unless a callback returned false.

## Shape of a callback

A text that names something the search can call is a call of it. Any other text is an expression,
whose code comes with it: what an expression does is told by a `Script`, and `Callback.text` gives
that of an expression which can be read.

A callback may call the operations that compose options, which run the callbacks from the first one
on again. What these operations do is handed down as `Again`. A script leaves the class as it is:
nothing that declares something on the class is among what it can call.
-/

namespace SearchQuery

/-- A callback that is told by its text alone. -/
def Callback.text (s : String) : Callback :=
  .expression s (Expression.script s)

namespace Search

/-! ## Calls -/

/-- What the operations that compose options do where a callback calls them, by their names. -/
abbrev Again := String → Searching Value

/-- The name that an argument gives. One that is no text cannot even be told in a failure. -/
def nameOf : Value → Except Failure String
  | .text s => .ok s
  | _ => .error .wrongType

/-- Call an operation that every search has. -/
def callCommon (c : ClassView) (again : Again) (operation : String) (arguments : List Value) :
    Searching Value :=
  match operation, arguments with
  | "ignore", [v] => do
    ignore c (← lift (nameOf v))
    return .null
  | "ignored", [v] => do return .bool (← ignored c (← lift (nameOf v)))
  | "truthy", [v] => do return .bool (← truthy c (← lift (nameOf v)))
  | "find_options_for", [v] => do findOptionsFor c (← lift (nameOf v))
  | "set_attributes", [v] => do
    setAttributes c v
    return .null
  -- A class method that answers the same for every name.
  | "search_attribute", [_] => return .bool true
  | "add_search_attribute", [_] => throw .noAttribute
  | "set_model", [_] =>
    throw ((c.schema.model.map fun m => .modelAlreadySet c.name m.toValue).getD .wrongType)
  | "search_attributes", [] => return .list (c.schema.names.map .text)
  | "before_find_options", [] | "search_accessor", [] | "register_before_find_options", [] =>
    return .null
  -- These run the callbacks once more, this one included.
  | "find_options", [] | "find_options_list", [] => again operation
  | "attributes", _ => do
    -- The attributes are a property: they are read, and their mapping cannot be called.
    let _ ← allAttributes c
    throw .wrongType
  | _, _ => throw (if reservedNames.contains operation then .wrongType else .noAttribute)

/-- Call what the search has under a name. Neither its values nor the methods of its class take
arguments. -/
def call (c : ClassView) (again : Again) (method : String) (arguments : List Value) :
    Searching Value := do
  match callee? c (← get) method with
  | some callee => if arguments.isEmpty then callee.run c else throw .wrongType
  | none =>
    match c.member? method with
    | some _ => throw .noAttribute
    | none => callCommon c again method arguments

/-- Read an attribute that may be missing. -/
def look (c : ClassView) (name : String) : Searching (Option Value) := fun s =>
  match read c name s with
  | .ok v s' => .ok (some v) s'
  | .error e s' => if e.isMissing then .ok none s' else .error e s'

end Search

/-- Run code that may call operations of a search. -/
def Script.run (c : ClassView) (again : Search.Again) : Script → Searching Value
  | done v => return v
  | hook code next => do
    let v ← code.run c
    (next v).run c again
  | look name next => do
    let found ← Search.look c name
    (next found).run c again
  | call method arguments next => do
    let v ← Search.call c again method arguments
    (next v).run c again

namespace Search

/-! ## The chain -/

/-- Whether a name stands for something that the search can call. -/
def isCallable (c : ClassView) (s : Search) (name : String) : Bool :=
  match callee? c s name with
  | some (.value v) => v.isModel
  | some (.member _) => true
  | none =>
    (c.member? name).isNone && reservedNames.contains name && name != "attributes" &&
      name != "schema"

/-- Run a callback. -/
def runCallback (c : ClassView) (again : Again) : Callback → Searching Value
  | .code code => code.run c again
  | .value v => throw (if v.isModel then .wrongType else .invalidCallback v)
  | .expression text code => do
    if Text.isIdentifier text && isCallable c (← get) text then call c again text []
    else code.run c again

/-- Whether a result is false itself, and not only something that counts as false. -/
def isFalse : Value → Bool
  | .bool false => true
  | _ => false

/-- Run callbacks in order, up to the first that returns false. Tells whether one did. -/
def runCallbacks (c : ClassView) (again : Again) : List Callback → Searching Bool
  | [] => return false
  | callback :: callbacks => do
    let v ← runCallback c again callback
    if isFalse v then return true else runCallbacks c again callbacks

/-- Run the callbacks and, unless one of them returned false, the search's own hook. -/
def runChain (c : ClassView) (again : Again) : Searching Unit := do
  let stopped ← runCallbacks c again c.schema.callbacks
  if !stopped then
    let _ ← orHiding c "before_find_options" (return .null)

end Search

end SearchQuery
