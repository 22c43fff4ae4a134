import SearchQuery.Number.Shortest
import SearchQuery.Text.Quoted
import SearchQuery.Value.Basic

/-!
# The texts of values

A value has two texts. Its `literal` shows what it is: texts are quoted, dates and decimal
numbers name their kind, collections show their brackets. Its `display` is for use inside other
text: a text is itself, a date its standard notation, a fragment its SQL.
-/

namespace SearchQuery

namespace Value

/-- Members between brackets. -/
def enclosed (opening : String) (items : List String) (closing : String) : String :=
  opening ++ ", ".intercalate items ++ closing

/-- A tuple of one member has a comma behind it. -/
def tupleText (items : List String) : String :=
  match items with
  | [item] => "(" ++ item ++ ",)"
  | items => enclosed "(" items ")"

/-- The text of a range; a step of one is not shown. -/
def rangeText (start stop step : Int) : String :=
  enclosed "range(" ([toString start, toString stop] ++
    if step == 1 then [] else [toString step]) ")"

/-- The text of a pattern; a long source is cut. Flags are shown that are not there anyway. -/
def patternText (p : Pattern) : String :=
  let flags := if p.flags.names.isEmpty then [] else ["|".intercalate (p.flags.names.map ("re." ++ ·))]
  let shown := String.ofList ((Text.quotedChars p.source.toList).take 200)
  enclosed "re.compile(" ([shown] ++ flags) ")"

/-- The name of a model class with its module. -/
def modelText (name : String) : String :=
  "<class " ++ Text.quoted ("models." ++ name) ++ ">"

mutual

/-- The text that shows what a value is. -/
def literal : Value → String
  | null => "None"
  | bool b => if b then "True" else "False"
  | int n => toString n
  | float x => x.text
  | decimal d => "Decimal(" ++ Text.quoted d.text ++ ")"
  | text s => Text.quoted s
  | date d => d.literal
  | moment m => m.literal
  | time t => t.literal
  | duration d => d.literal
  | bytes bs => Text.quotedBytes bs
  | list items => enclosed "[" (literals items) "]"
  | tuple items => tupleText (literals items)
  | set [] => "set()"
  | set items => enclosed "\x7b" (literals items) "\x7d"
  | range start stop step => rangeText start stop step
  | dict entries => enclosed "\x7b" (entryLiterals entries) "\x7d"
  | fragment f => fragmentLiteral f
  | ignored => "<ignored>"
  | pattern p => patternText p
  | model name => modelText name

/-- The text and the parameters of a fragment. -/
def fragmentLiteral : Fragment Value → String
  | ⟨sql, params, _⟩ =>
    "SqlFragment(sql=" ++ Text.quoted sql ++ ", params=" ++ tupleText (literals params) ++ ")"

/-- The texts of several values. -/
def literals : List Value → List String
  | [] => []
  | v :: vs => literal v :: literals vs

/-- The texts of the entries of a mapping. -/
def entryLiterals : List (Value × Value) → List String
  | [] => []
  | e :: es => entryLiteral e :: entryLiterals es

/-- A key and its value. -/
def entryLiteral : Value × Value → String
  | (k, v) => literal k ++ ": " ++ literal v

end

/-! ## What cannot be written -/

/-- Whether an integer has more digits than are ever written. -/
def isLong (n : Int) : Bool :=
  decide (tenTo maxDigits ≤ n.natAbs)

mutual

/-- Whether an integer in the literal of a value has more digits than are ever written. -/
def isTooLong : Value → Bool
  | int n => isLong n
  | list items | tuple items | set items => anyTooLong items
  | range start stop step => isLong start || isLong stop || isLong step
  | dict entries => anyEntryTooLong entries
  | fragment f => isFragmentTooLong f
  | _ => false

/-- Whether a parameter of a fragment is too long to be written. -/
def isFragmentTooLong : Fragment Value → Bool
  | ⟨_, params, _⟩ => anyTooLong params

/-- Whether one of several values is too long to be written. -/
def anyTooLong : List Value → Bool
  | [] => false
  | v :: vs => isTooLong v || anyTooLong vs

/-- Whether one of the entries of a mapping is too long to be written. -/
def anyEntryTooLong : List (Value × Value) → Bool
  | [] => false
  | e :: es => isEntryTooLong e || anyEntryTooLong es

/-- Whether a key or its value is too long to be written. -/
def isEntryTooLong : Value × Value → Bool
  | (k, v) => isTooLong k || isTooLong v

end

/-- The text of a value for use inside other text. -/
def display : Value → String
  | text s => s
  | decimal d => d.text
  | date d => d.text
  | moment m => m.text " "
  | time t => t.text
  | duration d => d.text
  | fragment f => f.sql
  | ignored => "IgnoredValue.IGNORED"
  | v => v.literal

/-- The text of a value for use inside other text, if it can be written. -/
def display? : Value → Option String
  | fragment f => some f.sql
  | v => if v.isTooLong then none else some v.display

end Value

end SearchQuery
