import SearchQuery.Statement.Placeholder
import SearchQuery.Value.Fragments

/-!
# Statements with bound parameters

A fragment whose placeholders and parameters agree in number becomes a text with named places and
a value bound to every name.

## Shape of the text

In such a text a name is a colon and the word behind it, unless the colon follows a colon, a word
character or a backslash, or another colon follows the word. `nameAt?` is that rule, `names`
collects all names of a text, and `withNames` puts something else in their places. The text that
a database sees has its names filled in first and then its escaped colons restored; `unescape`
leaves a backslash alone where a colon follows the word behind the escaped colon.
-/

namespace SearchQuery.Statement

open SearchQuery.Text

/-- The name that starts at a colon between `before` and `cs`. -/
def nameAt? (before : Option Char) (cs : List Char) : Option (List Char) :=
  let name := cs.takeWhile isWordChar
  if before.any (fun b => b == ':' || b == '\\' || isWordChar b) || name.isEmpty ||
      (cs.drop name.length).head? == some ':' then none
  else some name

/-- The names of a text, in order. -/
def names (before : Option Char) : List Char → List (List Char)
  | [] => []
  | c :: cs =>
    match if c == ':' then nameAt? before cs else none with
    | some name => name :: names (some c) cs
    | none => names (some c) cs

/-- A text with something else in the places of its names. The first `skip` characters belong to
a name that has been replaced. -/
def withNames (fill : List Char → List Char) (skip : Nat) (before : Option Char) :
    List Char → List Char
  | [] => []
  | c :: cs =>
    match skip with
    | skip + 1 => withNames fill skip (some c) cs
    | 0 =>
      match if c == ':' then nameAt? before cs else none with
      | some name => fill name ++ withNames fill name.length (some c) cs
      | none => c :: withNames fill 0 (some c) cs

/-- A text with its escaped colons restored. -/
def unescape : List Char → List Char
  | '\\' :: ':' :: cs =>
    if (cs.dropWhile isWordChar).head? == some ':' then '\\' :: ':' :: unescape cs
    else ':' :: unescape cs
  | c :: cs => c :: unescape cs
  | [] => []

/-- A text with named places, and the values bound to the names. -/
structure Bound where
  text : String
  binds : List (String × Value)
  deriving Inhabited

namespace Bound

/-- The text with something in the places of the bound names, as a database sees it. Names that
are not bound stay. -/
def filled (b : Bound) (fill : String → Value → List Char) : String :=
  let put (name : List Char) : List Char :=
    match b.binds.lookup (String.ofList name) with
    | some v => fill (String.ofList name) v
    | none => ':' :: name
  String.ofList (unescape (withNames put 0 none b.text.toList))

/-- The text that is sent to a database along with the bound values. -/
def sql (b : Bound) : String :=
  b.filled fun name _ => ':' :: name.toList

/-- Bind the parameters of a fragment. -/
def ofFragment (f : Fragment Value) : Except Failure Bound :=
  let cs := f.sql.toList
  let count := placeholderCount false cs
  if count != f.params.length then
    .error (.unbalancedFragment f.sql (.int count) (.int f.params.length))
  else
    let text := numbered false none 0 cs
    let found := names none text
    if (List.range count).all fun n => found.contains (placeholderName n) then
      .ok ⟨String.ofList text,
        (f.params.zipIdx).map fun p => (String.ofList (placeholderName p.2), p.1)⟩
    else .error .unrecognizedBinding

end Bound

end SearchQuery.Statement
