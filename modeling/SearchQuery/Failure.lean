import SearchQuery.Pattern.Compile
import SearchQuery.Value.Literal

/-!
# Failures

Everything that can go wrong is one of the causes of `Failure`, and `Failure.message` is the one
place where causes are worded.

## Shape of the type

The first group are the failures of searching itself: a declaration, a model, an attribute, an
option-map, a fragment or a configuration is not what it has to be. `Failure.kind` sorts them into
a tree of kinds, so that a caller can ask for all failures of one family. The second group are
values of the wrong sort handed to this library, and the third group are the failures of the
values' own operations, which carry no message.
-/

namespace SearchQuery

/-- Why an operation failed. -/
inductive Failure where
  | unspecified (operators : Option Bool) (details : List Value)
  | configUnreadable (path detail : String)
  | configInvalid (key : Value) (reason : String)
  | invalidOptions (options : List Value) (note : Option String)
  | unknownColumn (model column : Value)
  | invalidAttributeName (name : String)
  | modelAlreadySet (search : String) (model : Value)
  | modelNotSet (search : String)
  | noBridge (model : Value)
  | unknownAttributes (search : String) (names : List String)
  | undefinedFindOptions (name : String)
  | unknownOperator (operator : Value)
  | missingOption (operator : Value) (detail : String)
  | invalidFindOptions (keys : List String) (note : Option String)
  | invalidCallback (callback : Value)
  | unbalancedFragment (sql : String) (placeholders params : Value)
  | unreadableQuery (query : Value) (detail : String)
  | templateNotText (value : Value)
  | notAFragment (value : Value)
  | unknownConnective (word : Value)
  | optionsWithoutModel (options : List String)
  | builderWithOptions
  | attributeNameNotText (value : Value)
  | badPattern (error : PatternError)
  | wrongType
  | badValue
  | tooLarge
  | badDecimal
  | sumTooLarge
  | noAttribute
  | noKey
  | unknownName
  | badExpression
  | badIndentation
  | endlessRecursion
  | outOfMemory
  | unrecognizedBinding
  | notMapped
  deriving Inhabited

/-- The kinds of failures of searching. -/
inductive FailureKind where
  | search
  | config
  | configUnreadable
  | configInvalid
  | option
  | column
  | attributeName
  | modelAlreadySet
  | modelNotSet
  | bridge
  | unknownAttribute
  | undefinedFindOptions
  | operator
  | unknownOperator
  | missingOption
  | findOption
  | callback
  | fragment
  | query
  deriving DecidableEq, Inhabited

/-- The kind that a kind belongs to. -/
def FailureKind.parent? : FailureKind → Option FailureKind
  | search => none
  | configUnreadable | configInvalid => some config
  | column => some option
  | unknownOperator | missingOption => some operator
  | _ => some search

/-- A kind and all kinds it belongs to, the widest one last. The tree has three levels. -/
def FailureKind.lineage (k : FailureKind) : List FailureKind :=
  match k.parent? with
  | none => [k]
  | some p =>
    match p.parent? with
    | none => [k, p]
    | some q => [k, p, q]

namespace Failure

/-- The kind of a failure of searching; none for the other failures. -/
def kind? : Failure → Option FailureKind
  | unspecified none _ => some .search
  | unspecified (some false) _ => some .config
  | unspecified (some true) _ => some .operator
  | configUnreadable .. => some .configUnreadable
  | configInvalid .. => some .configInvalid
  | invalidOptions .. => some .option
  | unknownColumn .. => some .column
  | invalidAttributeName _ => some .attributeName
  | modelAlreadySet .. => some .modelAlreadySet
  | modelNotSet _ => some .modelNotSet
  | noBridge _ => some .bridge
  | unknownAttributes .. => some .unknownAttribute
  | undefinedFindOptions _ => some .undefinedFindOptions
  | unknownOperator _ => some .unknownOperator
  | missingOption .. => some .missingOption
  | invalidFindOptions .. => some .findOption
  | invalidCallback _ => some .callback
  | unbalancedFragment .. => some .fragment
  | unreadableQuery .. => some .query
  | _ => none

/-- Whether what failed is the look-up of an attribute that is not there. -/
def isMissing : Failure → Bool
  | noAttribute => true
  | _ => false

/-- The name of a model class, or the text of any other value in the place of a model. -/
def modelName : Value → String
  | .model name => name
  | v => v.display

/-- The note if it says anything, and the standard wording otherwise. -/
def noteOr (note : Option String) (wording : String) : String :=
  match note with
  | some s => if s.isEmpty then wording else s
  | none => wording

/-- What an unspecified failure says: nothing, its only detail, or all details. -/
def detailText : List Value → String
  | [] => ""
  | [v] => v.display
  | vs => (Value.tuple vs).literal

/-- The wording of a failure. Failures of values' own operations have none. -/
def message : Failure → String
  | unspecified _ details => detailText details
  | configUnreadable path detail => "Invalid config at " ++ path ++ ": " ++ detail
  | configInvalid key reason => "Invalid config value for '" ++ key.display ++ "': " ++ reason
  | invalidOptions options note =>
    noteOr note ("Invalid options " ++ (Value.list options).literal)
  | unknownColumn model column =>
    modelName model ++ " has no column '" ++ column.display ++ "'"
  | invalidAttributeName name => "'" ++ name ++ "' can't be used as a search attribute name"
  | modelAlreadySet search model =>
    "Model of " ++ search ++ " is already set to " ++ model.literal
  | modelNotSet search => "Can't create a " ++ search ++ " instance without model"
  | noBridge model => model.literal ++ " doesn't provide a search_api_bridge"
  | unknownAttributes search names =>
    "Unknown search attributes for " ++ search ++ ": " ++ ", ".intercalate names
  | undefinedFindOptions name =>
    "No find options defined for search attribute '" ++ name ++ "'"
  | unknownOperator operator => "Unknown operator " ++ operator.display
  | missingOption operator detail => operator.display ++ " operator requires " ++ detail
  | invalidFindOptions keys note =>
    noteOr note ("Unknown find option keys: " ++ ", ".intercalate keys)
  | invalidCallback callback =>
    "Callbacks must be a method name, a string to be evaluated, a callable, " ++
      "or an object responding to before_find_options; got " ++ callback.literal
  | unbalancedFragment sql placeholders params =>
    "Fragment '" ++ sql ++ "' has " ++ placeholders.display ++ " placeholders but " ++
      params.display ++ " parameters"
  | unreadableQuery query detail =>
    "Failed to parse search query '" ++ query.display ++ "': " ++ detail
  | templateNotText value => "SQL fragment template must be a string, got " ++ value.literal
  | notAFragment value => "Can't build a SQL fragment from " ++ value.literal
  | unknownConnective word => "Unsupported logical operator " ++ word.literal
  | optionsWithoutModel options =>
    "Model options given without a model: " ++ (Value.list (options.map .text)).literal
  | builderWithOptions => "A SearchAttributeBuilder can't be combined with options"
  | attributeNameNotText value => "Search attribute names must be strings, got " ++ value.literal
  -- The other failures are not those of the library, and have no text here.
  | _ => ""

/-- The values that the wording of a failure shows. -/
def shown : Failure → List Value
  | unspecified _ details => details
  | invalidOptions options _ => options
  | unknownColumn model column => [model, column]
  | configInvalid v _ | modelAlreadySet _ v | noBridge v | unknownOperator v | missingOption v _
  | invalidCallback v | unreadableQuery v _ | templateNotText v | notAFragment v
  | unknownConnective v | attributeNameNotText v => [v]
  | unbalancedFragment _ placeholders params => [placeholders, params]
  | _ => []

/-- The failure itself if it can be worded, and otherwise that of the value that is too long. -/
def worded (e : Failure) : Failure :=
  if Value.anyTooLong e.shown then badValue else e

/-- Sort names by their characters. -/
def sortNames (names : List String) : List String :=
  names.mergeSort fun a b => !decide (b < a)

/-- The failure of options that nobody understands, in alphabetical order. -/
def ofOptions (options : List String) : Failure :=
  invalidOptions ((sortNames options).map .text) none

/-- The failure of a pattern that cannot be read. What is no error of the pattern is the failure of an
operation that reading it is made of. -/
def ofPattern (e : PatternError) : Failure :=
  match e.defect with
  | .countTooLarge | .codeTooLarge => tooLarge
  | .countTooLong | .clashingFlags => badValue
  | .tooDeep => endlessRecursion
  | _ => badPattern e

/-- The failure of keys that are no find options, in alphabetical order. -/
def ofKeys (keys : List Value) : Failure :=
  invalidFindOptions (sortNames (keys.map (·.display))) none

end Failure

end SearchQuery
