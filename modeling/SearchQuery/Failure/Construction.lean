import SearchQuery.Value.Conversion
import SearchQuery.Value.Order

/-!
# Making failures

A failure of searching can be made from its kind and the values that it tells of, so that models
with a bridge of their own report what goes wrong in the same words.

## Shape of the values

Each kind tells of a fixed number of values, but for the widest kinds, which tell of any number,
and for notes, which may be left out. Names are the texts of the members of a value. Options are
put in order as values, and keys as texts. A note takes the place of the standard wording.
-/

namespace SearchQuery

/-- All kinds of failures of searching. -/
def FailureKind.all : List FailureKind := [
  search, config, configUnreadable, configInvalid, option, column, attributeName, modelAlreadySet,
  modelNotSet, bridge, unknownAttribute, undefinedFindOptions, operator, unknownOperator,
  missingOption, findOption, callback, fragment, query]

namespace Failure

/-- The members of a value. -/
def members (v : Value) : Except Failure (List Value) :=
  match v.items? with
  | some vs => .ok vs
  | none => .error .wrongType

/-- Values that have to be texts. -/
def textsOf (vs : List Value) : Except Failure (List String) :=
  match vs.mapM Value.text? with
  | some texts => .ok texts
  | none => .error .wrongType

/-- The name of a search class. -/
def className : Value → Except Failure String
  | .model name => .ok name
  | _ => .error .noAttribute

/-- A note, if there is one that counts as true. -/
def noteOf (v : Value) : Except Failure (Option String) :=
  if v.truthy then v.written.map some else .ok none

/-- The failure of options that nobody understands. -/
def ofOptionValues (options note : Value) : Except Failure Failure := do
  return invalidOptions (← Value.sorted (← members options)) (← noteOf note)

/-- The failure of keys that are no find options. -/
def ofKeyValues (keys note : Value) : Except Failure Failure := do
  return invalidFindOptions (sortNames (← (← members keys).mapM Value.written)) (← noteOf note)

/-- The failure of names that are no search attributes. -/
def ofUnknownNames (search names : Value) : Except Failure Failure := do
  let vs ← members names
  let name ← className search
  return unknownAttributes name (← textsOf vs)

/-- The failure of a kind that tells of the given values. -/
def ofKind (kind : FailureKind) (values : List Value) : Except Failure Failure :=
  match kind, values with
  -- These three keep whatever they are made with.
  | .search, _ => .ok (unspecified none values)
  | .config, _ => .ok (unspecified (some false) values)
  | .operator, _ => .ok (unspecified (some true) values)
  | .configUnreadable, [path, detail] =>
    return configUnreadable (← path.written) (← detail.written)
  | .configInvalid, [key, _, reason] => reason.written.map (configInvalid key)
  | .option, [options] => ofOptionValues options .null
  | .option, [options, note] => ofOptionValues options note
  | .column, [model, column] => .ok (unknownColumn model column)
  | .attributeName, [name] => name.written.map invalidAttributeName
  | .modelAlreadySet, [search, model] => (className search).map (modelAlreadySet · model)
  | .modelNotSet, [search] => (className search).map modelNotSet
  | .bridge, [model] => .ok (noBridge model)
  | .unknownAttribute, [search, names] => ofUnknownNames search names
  | .undefinedFindOptions, [name] => name.written.map undefinedFindOptions
  | .unknownOperator, [operator] => .ok (unknownOperator operator)
  | .missingOption, [operator, detail] => detail.written.map (missingOption operator)
  | .findOption, [keys] => ofKeyValues keys .null
  | .findOption, [keys, note] => ofKeyValues keys note
  | .callback, [callback] => .ok (invalidCallback callback)
  | .fragment, [sql, placeholders, params] =>
    sql.written.map (unbalancedFragment · placeholders params)
  | .query, [query, detail] => detail.written.map (unreadableQuery query)
  -- The number of arguments does not fit.
  | _, _ => .error .wrongType

end Failure

end SearchQuery
