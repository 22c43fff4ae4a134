/-!
# Fragments of SQL

A fragment is a piece of SQL text with positional placeholders `?` and the parameters that are
to be bound to them, in order. Fragments are combined into larger ones by putting each side in
parentheses and concatenating the parameters from left to right; a fragment without text is the
identity of every combination.

## Shape of the algebra

The parameters may be of any type, because no combination looks at them. A fragment remembers
the connective that `extend` uses; combinations give the remembered connective up, `extend`
keeps it.
-/

namespace SearchQuery

/-- How two conditions are joined. -/
inductive Connective where
  | and
  | or
  deriving DecidableEq, Inhabited

namespace Connective

/-- The SQL word of a connective. -/
def word : Connective → String
  | and => "AND"
  | or => "OR"

/-- The connective with the given word, in upper case. -/
def ofWord? (s : String) : Option Connective :=
  if s == "AND" then some and else if s == "OR" then some or else none

end Connective

/-- A piece of SQL with positional placeholders, and its parameters. -/
structure Fragment (α : Type) where
  sql : String := ""
  params : List α := []
  connective : Connective := .and

namespace Fragment

variable {α : Type}

/-- The fragment without text and parameters. -/
def empty : Fragment α := {}

instance : Inhabited (Fragment α) := ⟨empty⟩

/-- A fragment without parameters. -/
def ofSql (sql : String) : Fragment α := { sql }

/-- Whether the fragment has no text. Its parameters do not matter. -/
def isEmpty (f : Fragment α) : Bool :=
  f.sql.isEmpty

/-- A text in parentheses. -/
def parenthesized (sql : String) : String :=
  "(" ++ sql ++ ")"

/-- Join two fragments by a connective, each in parentheses; a fragment without text yields the
other one. -/
def combine (a b : Fragment α) (op : Connective) : Fragment α :=
  if b.isEmpty then a
  else if a.isEmpty then b
  else
    { sql := parenthesized a.sql ++ " " ++ op.word ++ " " ++ parenthesized b.sql
      params := a.params ++ b.params }

/-- Both fragments hold. -/
def and (a b : Fragment α) : Fragment α :=
  a.combine b .and

/-- One of the fragments holds. -/
def or (a b : Fragment α) : Fragment α :=
  a.combine b .or

/-- The fragment does not hold; a fragment without text is left alone. -/
def negate (a : Fragment α) : Fragment α :=
  if a.isEmpty then a else { sql := "NOT" ++ parenthesized a.sql, params := a.params }

/-- Combine by the connective that the fragment remembers, and go on remembering it. -/
def extend (a b : Fragment α) : Fragment α :=
  { a.combine b a.connective with connective := a.connective }

/-- Glue the fragments that have text together, each in parentheses if `wrap` holds. -/
def join (separator : String) (wrap : Bool) (fs : List (Fragment α)) : Fragment α :=
  let parts := fs.filter (!·.isEmpty)
  { sql := separator.intercalate
      (parts.map fun f => if wrap then parenthesized f.sql else f.sql)
    params := parts.flatMap (·.params) }

end Fragment

end SearchQuery
