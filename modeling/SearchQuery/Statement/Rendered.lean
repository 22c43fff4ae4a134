import SearchQuery.Statement.Bound

/-!
# Statements for display

A statement is shown with its parameters as SQL literals in their places. When one of them has no
literal, the statement is shown as it is and the parameters are listed behind it.
-/

namespace SearchQuery.Statement

/-- A text between single quotes, which are doubled inside. -/
def sqlQuoted (s : String) : String :=
  let inside := s.toList.flatMap fun c => if c == apostrophe then [c, c] else [c]
  String.ofList (apostrophe :: inside ++ [apostrophe])

/-- The SQL literal of a value, if it has one. -/
def sqlLiteral? : Value → Option String
  | .null => some "NULL"
  | .bool b => some (if b then "1" else "0")
  | .int n => some (toString n)
  | .float x => some x.text
  | .decimal d => some d.text
  | .text s => some (sqlQuoted s)
  | .bytes bs => (String.fromUTF8? ⟨bs.toArray⟩).map sqlQuoted
  | .date d => some (sqlQuoted d.text)
  | .moment m => some (sqlQuoted (m.text " "))
  | .time t => some (sqlQuoted t.text)
  | _ => none

/-- A fragment with its parameters as literals. -/
def render (f : Fragment Value) : Except Failure String :=
  (Bound.ofFragment f).bind fun b =>
    if Value.anyTooLong f.params then .error .badValue
    else if f.params.all fun v => (sqlLiteral? v).isSome then
      .ok (b.filled fun _ v => ((sqlLiteral? v).getD "").toList)
    else .ok (f.sql ++ " -- " ++ (Value.list f.params).literal)

end SearchQuery.Statement
