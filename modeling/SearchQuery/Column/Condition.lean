import SearchQuery.Query.Criterion

/-!
# Conditions on columns

Each operator of a search attribute makes a condition on a column out of the attribute's value,
or no condition where the value asks for nothing.
-/

namespace SearchQuery.Column

/-- A condition with one parameter. -/
def test (sql : String) (v : Value) : Fragment Value :=
  { sql, params := [v] }

/-- The column is equal to the value, null for `null`, and one of the members for a
collection. -/
def equality (column : String) (v : Value) : Fragment Value :=
  match v with
  | .null => .ofSql (column ++ " IS NULL")
  | v =>
    match v.collection? with
    | some [] => .ofSql (column ++ " IN (NULL)")
    | some items =>
      { sql := column ++ " IN (" ++ ", ".intercalate (items.map fun _ => "?") ++ ")"
        params := items }
    | none => test (column ++ " = ?") v

/-- The column differs from the value; a column without a value differs from every value. -/
def inequality (column : String) (v : Value) : Fragment Value :=
  match v with
  | .null => .ofSql (column ++ " IS NOT NULL")
  | v => test (column ++ " <> ? OR " ++ column ++ " IS NULL") v

/-- An order that a column and a value can be compared by. -/
inductive Comparison where
  | less
  | atMost
  | greater
  | atLeast
  deriving DecidableEq, Inhabited

/-- The SQL sign of an order. -/
def Comparison.sign : Comparison → String
  | less => "<"
  | atMost => "<="
  | greater => ">"
  | atLeast => ">="

/-- The column stands in an order to the value; `null` asks for nothing. -/
def compared (c : Comparison) (column : String) (v : Value) : Option (Fragment Value) :=
  match v with
  | .null => none
  | v => some (test (column ++ " " ++ c.sign ++ " ?") v)

/-- Where a text is looked for in a column. -/
inductive Place where
  | anywhere
  | atStart
  | atEnd
  deriving DecidableEq, Inhabited

/-- The pattern of the texts that hold `s` in a place. -/
def Place.likePattern (p : Place) (s : String) : String :=
  match p with
  | anywhere => "%" ++ s ++ "%"
  | atStart => s ++ "%"
  | atEnd => "%" ++ s

/-- The text to look for that a value stands for; `null` stands for the empty one. -/
def soughtText : Value → String
  | .null => ""
  | v => v.display

/-- The column holds a text in a place; the empty text asks for nothing. -/
def holding (p : Place) (column : String) (v : Value) : Option (Fragment Value) :=
  let s := soughtText v
  if s.isEmpty then none else some (test (column ++ " LIKE ?") (.text (p.likePattern s)))

/-- The columns meet the text criterion that a value writes; the empty text asks for nothing. -/
def meeting (o : QueryOptions) (columns : List String) (v : Value) : Option (Fragment Value) :=
  let s := soughtText v
  if s.isEmpty then none else some ((Criterion.read o s).condition columns)

end SearchQuery.Column
