import SearchQuery.Text.Alphanumeric

/-!
# Placeholders

A fragment marks the places of its parameters by question marks. A statement that is handed to a
database marks them by names: the first question mark outside single quotes becomes `:p0`, the
next one `:p1`, and so on. A colon of the fragment itself is escaped by a backslash, so that it
cannot start a name.

## Shape of the scan

Both functions walk through the text and keep whether they are inside single quotes; a quote
inside quotes is written twice, which leaves and enters them again. `numbered` also keeps the
last character it wrote, because a name is set apart by a space from a word or a name in front of
it.
-/

namespace SearchQuery.Statement

open SearchQuery.Text

/-- The single quote. -/
def apostrophe : Char := '\x27'

/-- The number of question marks outside single quotes. -/
def placeholderCount (quoted : Bool) : List Char → Nat
  | [] => 0
  | c :: cs =>
    if c == apostrophe then placeholderCount (!quoted) cs
    else if c == '?' && !quoted then placeholderCount quoted cs + 1
    else placeholderCount quoted cs

/-- The name of placeholder `n`. -/
def placeholderName (n : Nat) : List Char :=
  'p' :: Nat.toDigits 10 n

/-- Replace question marks outside single quotes by names, from `:p count` on, and escape colons.
`last` is the last character written so far. -/
def numbered (quoted : Bool) (last : Option Char) (count : Nat) : List Char → List Char
  | [] => []
  | c :: cs =>
    if c == apostrophe then c :: numbered (!quoted) (some c) count cs
    else if c == '?' && !quoted then
      let name := placeholderName count
      (if last.any isWordChar then [' '] else []) ++
        ':' :: name ++ numbered quoted name.getLast? (count + 1) cs
    else if c == ':' then '\\' :: ':' :: numbered quoted (some ':') count cs
    else c :: numbered quoted (some c) count cs

end SearchQuery.Statement
