import SearchQuery.Bridge.Basic
import SearchQuery.Column.Condition

/-!
# The bridge of a table

A table predefines one attribute for every column, which asks for equality, and bounds for every
column whose values are ordered. A declaration may name an operator and a column instead of
giving a block; rewriting it consumes these options and installs the block that the operator
stands for.

## Shape of the operators

The operators on one column are data (`ColumnOperator`), and `ColumnOperator.condition?` makes
the condition of each. The block reads the attribute and contributes the condition, or nothing
where there is none. The operator `full_text` reads a search string and needs several columns.
-/

namespace SearchQuery

open Column

/-- The operators that look at one column. -/
inductive ColumnOperator where
  | equal
  | notEqual
  | compare (c : Comparison)
  | hold (p : Place)
  deriving DecidableEq, Inhabited

namespace ColumnOperator

/-- The operator of a name. -/
def ofName? : String → Option ColumnOperator
  | "eq" => some equal
  | "neq" => some notEqual
  | "lt" => some (compare .less)
  | "lte" => some (compare .atMost)
  | "gt" => some (compare .greater)
  | "gte" => some (compare .atLeast)
  | "contains" => some (hold .anywhere)
  | "starts_with" => some (hold .atStart)
  | "ends_with" => some (hold .atEnd)
  | _ => none

/-- The condition that the operator makes on a column out of a value. -/
def condition? (op : ColumnOperator) (column : String) (v : Value) : Option (Fragment Value) :=
  match op with
  | equal => some (equality column v)
  | notEqual => some (inequality column v)
  | compare c => compared c column v
  | hold p => holding p column v

/-- Whether the operator uses the text of a value. -/
def usesText : ColumnOperator → Bool
  | hold _ => true
  | _ => false

end ColumnOperator

/-- The option-map with one condition, or `null` without one. -/
def contribution (f : Option (Fragment Value)) : Value :=
  match f with
  | some f => .dict [(.text "conditions", .fragment f)]
  | none => .null

namespace Bridge

/-- The block of an operator on one column, for the attribute `name`. -/
def columnBlock (op : ColumnOperator) (name column : String) : Hook :=
  .read name fun v =>
    if op.usesText && v.display?.isNone then .fail .badValue
    else .done (contribution (op.condition? column v))

/-- The block of `full_text`, for the attribute `name`. -/
def fullTextBlock (pairing : Bool) (exclude : Value) (name : String) (columns : List String) :
    Hook :=
  .read name fun v =>
    if v.display?.isNone then .fail .badValue
    else if (soughtText v).isEmpty then .done (contribution none)
    else
      match Query.exclusions exclude with
      | .error e => .fail e
      | .ok patterns => .done (contribution (meeting ⟨patterns, pairing⟩ columns v))

/-! ## Rewriting -/

/-- Take an option out of the builder. -/
def take (name : String) : EStateM Failure Builder (Option Setting) := do
  let b ← get
  set { b with options := b.options.erase name }
  return b.options.get? name

/-- Fail with a cause, or go on with a result. -/
def lift {σ α : Type} (e : Except Failure α) : EStateM Failure σ α :=
  match e with
  | .ok a => pure a
  | .error e => throw e

/-- Apply a conversion after another one. -/
def composed (first : Conversion) (then? : Option Conversion) : Conversion :=
  match then? with
  | some f => fun v => first v >>= f
  | none => first

/-- Make an attribute cast what is stored in it before any conversion of its own. -/
def castTo (m : Machine) (kind : ColumnKind) (b : Builder) : Builder :=
  let after := (b.options.get? "store_as").bind Setting.toConversion?
  let conversion := composed (Column.tryCast m kind) after
  { b with options := b.options.set "store_as" (.conversion conversion) }

/-- Rewrite a declaration with an operator on one column. -/
def rewriteColumn (t : Table) (operator : String) (op : ColumnOperator) : Rewriting := do
  let name ← take "column"
  match name with
  | some (.value (.text s)) =>
    if s.isEmpty then
      throw (.missingOption (.text operator) "the column option to contain a column name")
    let column ← lift (t.column (.text s))
    let wanted ← take "type_cast"
    if wanted.any Setting.truthy then
      modify fun b => column.kind.elim b (castTo t.machine · b)
    modify fun b => { b with block := some (columnBlock op b.name (t.sqlColumn column)) }
  | _ => throw (.missingOption (.text operator) "the column option to contain a column name")

/-- The columns that an option names: one for a text, else one for each member. -/
def namedColumns (t : Table) (operator : String) (names : Option Setting) :
    Except Failure (List String) := do
  let missing : Failure :=
    .missingOption (.text operator) "the column or columns options to contain column names"
  let members ← match names with
    | none => throw missing
    | some (.conversion _) => throw .wrongType
    -- A text is one name, not a sequence of characters.
    | some (.value (.text s)) => pure [.text s]
    | some (.value v) =>
      if !v.truthy then throw missing
      match v.items? with
      | some items => pure items
      | none => throw .wrongType
  members.mapM fun m => (t.column m).map t.sqlColumn

/-- Rewrite a declaration with the operator `full_text`. A search string is a text whatever the
columns hold, so it is never cast. -/
def rewriteFullText (t : Table) (config : Config) (operator : String) : Rewriting := do
  let several ← take "columns"
  let names ← if several.any Setting.truthy then pure several else take "column"
  let _ ← take "column"
  let _ ← take "type_cast"
  let columns ← lift (namedColumns t operator names)
  let exclude ← match ← take "exclude" with
    | some s => pure s.toValue
    | none => do
      let patterns ← lift config.patterns
      pure (.list (patterns.map .pattern))
  modify fun b => { b with block := some (fullTextBlock config.parseMeta exclude b.name columns) }

/-- Rewrite a declaration: consume an operator and its options, and install its block. -/
def rewriteRelational (t : Table) (config : Config) : Rewriting := do
  match ← take "operator" with
  | none => pure ()
  | some (.value .null) => pure ()
  | some s =>
    let operator ← lift s.toValue.written
    match ColumnOperator.ofName? operator with
    | some op => rewriteColumn t operator op
    | none =>
      if operator == "full_text" then rewriteFullText t config operator
      else throw (.unknownOperator (.text operator))

/-! ## The contract -/

/-- The options that the automatic attributes of a table understand. -/
def automaticOptions : List String := ["type_cast"]

/-- The automatic attributes of one column. -/
def columnBuilders (typeCast : Bool) (c : TableColumn) : List Builder :=
  let builder (name operator : String) : Builder :=
    { name
      options := [("type_cast", .value (.bool typeCast)), ("column", .value (.text c.key)),
        ("operator", .value (.text operator))] }
  builder c.key "eq" ::
    if c.kind.any (·.isComparable) then
      [builder ("min_" ++ c.key) "gte", builder ("max_" ++ c.key) "lte"]
    else []

/-- The attributes that a bridge predefines. -/
def automatic (b : Bridge) (options : Options) : Except Failure (List Builder) :=
  match b with
  | relational t config =>
    let unknown := options.unknown automaticOptions
    if unknown.isEmpty then
      let typeCast := match options.get? "type_cast" with
        | some s => s.truthy
        | none => config.typeCast
      .ok (t.columns.flatMap (columnBuilders typeCast))
    else .error (.ofOptions unknown)
  | custom c => c.automatic options

/-- Rewrite a declaration. -/
def rewrite : Bridge → Rewriting
  | relational t config => rewriteRelational t config
  | custom c => c.rewrite

/-- Check what an attribute contributes. -/
def validate : Bridge → Value → Except Failure Unit
  | relational _ _ => FindOptions.validate
  | custom c => c.validate

/-- Merge what the attributes of a search contribute. -/
def merge (b : Bridge) (maps : List Value) : Except Failure Value :=
  match b with
  | relational t _ =>
    (FindOptions.merge ⟨some t.sqlTable, t.primaryKey⟩ maps).map FindOptions.toValue
  | custom c => c.merge maps

/-- The table of a bridge that belongs to one. -/
def table? : Bridge → Option Table
  | relational t _ => some t
  | custom _ => none

/-- The text that stands for a bridge. -/
def literal : Bridge → String
  | relational t _ => "RelationalBridge(" ++ t.model ++ ")"
  | custom _ => "Bridge"

end Bridge

end SearchQuery
