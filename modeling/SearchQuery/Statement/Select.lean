import SearchQuery.FindOptions.Merge

/-!
# SELECT statements

A merged option-map and a table make a `SELECT` statement; a statement makes another one that
counts its rows.
-/

namespace SearchQuery.Statement

/-- The fragment of one clause of an option-map; a clause that is missing is empty. -/
def clause (options : Value) (key : String) : Except Failure (Fragment Value) :=
  match options with
  | .dict entries => Fragment.ofValue ((Value.lookupText entries key).getD .null)
  | _ => .error .noAttribute

/-- A clause with its keywords in front, unless it is empty. -/
def withKeyword (keyword : String) (f : Fragment Value) : Fragment Value :=
  if f.isEmpty then .empty else { sql := keyword ++ " " ++ f.sql, params := f.params }

/-- The columns to select, all of the table's by default. -/
def selection (table : String) (f : Fragment Value) : Fragment Value :=
  if f.isEmpty then .ofSql (table ++ ".*") else f

/-- The statement that selects the rows of a table that an option-map describes. -/
def select (table : String) (options : Value) : Except Failure (Fragment Value) := do
  let columns := selection table (← clause options "select")
  let joins ← clause options "joins"
  let conditions ← clause options "conditions"
  let group ← clause options "group"
  let order ← clause options "order"
  return Fragment.join " " false [
    { sql := "SELECT " ++ columns.sql ++ " FROM " ++ table, params := columns.params },
    joins,
    withKeyword "WHERE" conditions,
    withKeyword "GROUP BY" group,
    withKeyword "ORDER BY" order]

/-- The statement that counts the rows of another one. -/
def counting (f : Fragment Value) : Fragment Value :=
  { sql := "SELECT COUNT(*) FROM (" ++ f.sql ++ ") AS search_api_count", params := f.params }

end SearchQuery.Statement
