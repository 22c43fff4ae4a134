import SearchQuery.Column.Cast
import SearchQuery.Config.Basic

/-!
# Tables

A table model is a class whose instances are the rows of a table. A search needs to know the
table's name, its columns with their kinds, its primary key and its associations.

## Shape of names in SQL

A name is written as it is when it is a lower-case word of plain letters, digits, `_` and `$`
that starts with no digit or `$` and is not reserved. A letter is plain when it or its capital is
one of A to Z, which is so of the dotless `ı` and the long `ſ` too. One line feed may end the name.
Any other name is written in double quotes, which are doubled inside.
-/

namespace SearchQuery

/-- Words that are always quoted. -/
def reservedWords : List String := [
  "all", "analyse", "analyze", "and", "any", "array", "as", "asc", "asymmetric", "authorization",
  "between", "binary", "both", "case", "cast", "check", "collate", "column", "constraint",
  "create", "cross", "current_date", "current_role", "current_time", "current_timestamp",
  "current_user", "default", "deferrable", "desc", "distinct", "do", "else", "end", "except",
  "false", "for", "foreign", "freeze", "from", "full", "grant", "group", "having", "ilike", "in",
  "initially", "inner", "intersect", "into", "is", "isnull", "join", "leading", "left", "like",
  "limit", "localtime", "localtimestamp", "natural", "new", "not", "notnull", "null", "off",
  "offset", "old", "on", "only", "or", "order", "outer", "overlaps", "placing", "primary",
  "references", "right", "select", "session_user", "set", "similar", "some", "symmetric",
  "table", "then", "to", "trailing", "true", "union", "unique", "user", "using", "verbose",
  "when", "where"]

/-- Whether `c` may stand in a name that is not quoted. -/
def isPlainNameChar (c : Char) : Bool :=
  c.isLower || c.isDigit || c == '_' || c == '$' || c == 'ı' || c == 'ſ'

/-- A name without the line feed at its end. -/
def dropFinalLineFeed (cs : List Char) : List Char :=
  if cs.getLast? == some '\n' then cs.dropLast else cs

/-- Whether a name is written as it is. -/
def isPlainName (name : String) : Bool :=
  let cs := dropFinalLineFeed name.toList
  cs.all isPlainNameChar && !cs.isEmpty && !cs.head?.any (fun c => c.isDigit || c == '$') &&
    !reservedWords.contains name

/-- A name as it is written in SQL. -/
def sqlName (name : String) : String :=
  if isPlainName name then name
  else String.ofList ('"' :: name.toList.flatMap (fun c => if c == '"' then [c, c] else [c]) ++ ['"'])

/-- A column: the attribute that holds it, its name in the table, and the kind of its values,
where they are known to be of one kind. -/
structure TableColumn where
  key : String
  name : String
  kind : Option ColumnKind
  primary : Bool := false
  deriving DecidableEq, Inhabited

/-- A table model. `searchable` models have an implicit search class, and may have a
configuration of their own. `machine` bounds what values are cast to its columns. -/
structure Table where
  model : String
  table : String
  schema : Option String := none
  columns : List TableColumn
  associations : List String := []
  searchable : Bool := false
  config : Option Config := none
  machine : Machine := {}
  deriving Inhabited

namespace Table

/-- The name of the table in SQL, with its schema if it has one with a name. -/
def sqlTable (t : Table) : String :=
  let schema := t.schema.getD ""
  if schema.isEmpty then sqlName t.table else sqlName schema ++ "." ++ sqlName t.table

/-- The first primary key column in SQL, if there is one. -/
def primaryKey (t : Table) : Option String :=
  (t.columns.find? (·.primary)).map fun c => sqlName c.name

/-- A column in SQL, with its table. -/
def sqlColumn (t : Table) (c : TableColumn) : String :=
  t.sqlTable ++ "." ++ sqlName c.name

/-- The column of an attribute, or else the column of that name. -/
def column? (t : Table) (name : String) : Option TableColumn :=
  match t.columns.find? (·.key == name) with
  | some c => some c
  | none => t.columns.find? (·.name == name)

/-- The column that a value names. -/
def column (t : Table) (name : Value) : Except Failure TableColumn :=
  match name.text?.bind t.column? with
  | some c => .ok c
  | none =>
    if name.isKey then .error (.unknownColumn (.model t.model) name) else .error .wrongType

end Table

end SearchQuery
