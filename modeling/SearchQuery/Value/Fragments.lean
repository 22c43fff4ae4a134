import SearchQuery.Failure
import SearchQuery.Text.Case

/-!
# Fragments out of values

Wherever a fragment of SQL is expected, a bare text may stand for a fragment without parameters,
a list or a tuple for a template and its parameters, and `null` for the empty fragment.
-/

namespace SearchQuery.Fragment

/-- The fragment that a value stands for. -/
def ofValue : Value → Except Failure (Fragment Value)
  | .null => .ok .empty
  | .fragment f => .ok f
  | .text s => .ok (.ofSql s)
  | .list [] | .tuple [] => .ok .empty
  | .list (.text s :: params) | .tuple (.text s :: params) => .ok { sql := s, params }
  | .list (v :: _) | .tuple (v :: _) => .error (.templateNotText v)
  | v => .error (.notAFragment v)

/-- The connective that a value names, in upper or lower case; a false value names `AND`. -/
def connectiveOf (v : Value) : Except Failure Connective :=
  if !v.truthy then .ok .and
  else
    match v with
    | .text s =>
      match Connective.ofWord? (Text.upperCase s) with
      | some c => .ok c
      | none => .error (.unknownConnective v)
    | .bytes _ => .error (.unknownConnective v)
    | _ => .error .noAttribute

/-- A fragment made from its parts; the parameters are the members of a value. -/
def ofParts (sql : String) (params connective : Value) : Except Failure (Fragment Value) :=
  match params.items? with
  | some items => (connectiveOf connective).map fun c => { sql, params := items, connective := c }
  | none => .error .wrongType

/-- Combine a fragment with a value by a connective named in upper or lower case. -/
def combineNamed (a : Fragment Value) (v : Value) (word : String) :
    Except Failure (Fragment Value) :=
  let upper := Text.upperCase word
  match Connective.ofWord? upper with
  | some c => (ofValue v).map fun b => a.combine b c
  | none => .error (.unknownConnective (.text upper))

/-- Keep the first of the fragments that are equal to one another. It fails where fragments cannot
be compared. -/
def distinct (fs : List (Fragment Value)) : Except Failure (List (Fragment Value)) :=
  match Value.distinctBy Value.sameFragment? [] fs with
  | some kept => .ok kept
  | none => .error .badDecimal

end SearchQuery.Fragment
