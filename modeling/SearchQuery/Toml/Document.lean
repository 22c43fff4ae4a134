import SearchQuery.Toml.Scalar
import SearchQuery.Toml.Table

/-!
# Reading a document

A document is a sequence of lines: an assignment, the header of a table, the header of an element
of an array of tables, or nothing, each with an optional comment behind it.

## Shape of the fuel

Values nest, and lines follow each other, so readers take fuel. Every value and every element of
an array or a table consumes at least one character, and so does every line, so fuel of twice the
length of the document is never used up.
-/

namespace SearchQuery.Toml

open Text Text.Scan

/-! ## Values -/

mutual

/-- A value of any kind. -/
def value : Nat → Scan Value
  | 0 => malformed
  | n + 1 => do
    match (← get).head? with
    | some '"' => return .text (← quotedText '"')
    | some '\x27' => return .text (← quotedText '\x27')
    | some '[' => do
      skip ['[']
      skipBlanks
      return .list (← elements n)
    | some '\x7b' => do
      skip ['\x7b']
      skipGap
      -- An inline table may be empty, but has no comma at its end.
      if ← skip? ['\x7d'] then return .dict []
      return .dict (← members n [] [])
    | some 't' => do
      skip "true".toList
      return .bool true
    | some 'f' => do
      skip "false".toList
      return .bool false
    | _ => scalar

/-- The elements of an array up to its closing bracket. -/
def elements : Nat → Scan (List Value)
  | 0 => malformed
  | n + 1 => do
    if ← skip? [']'] then return []
    let v ← value n
    skipBlanks
    if ← skip? [','] then
      skipBlanks
      return v :: (← elements n)
    else
      skip [']']
      return [v]

/-- The members of a table in braces up to its closing brace. -/
def members : Nat → Entries → List Path → Scan Entries
  | 0, _, _ => malformed
  | n + 1, entries, closed => do
    let path ← key
    skip ['=']
    skipGap
    let v ← value n
    let (entries, closed) ← orMalformed (assignInline entries closed path v)
    skipGap
    if ← skip? ['\x7d'] then return entries
    skip [',']
    skipGap
    members n entries closed

end

/-! ## Lines -/

/-- Whether a key may start with `c`. -/
def startsKey (c : Char) : Bool :=
  isBareKeyChar c || c == '"' || c == '\x27'

/-- An assignment. -/
def assignment (d : Draft) : Scan Draft := do
  let path ← key
  skip ['=']
  skipGap
  let v ← value (2 * (← get).length + 2)
  orMalformed (d.assign path v)

/-- A header of a table or of an element of an array of tables. -/
def header (d : Draft) : Scan Draft := do
  if ← skip? ['[', '['] then
    skipGap
    let path ← key
    skip [']', ']']
    orMalformed (d.openElement path)
  else
    skip ['[']
    skipGap
    let path ← key
    skip [']']
    orMalformed (d.openTable path)

/-- What a line says. -/
def statement (d : Draft) : Scan Draft := do
  match (← get).head? with
  | none => return d
  | some c =>
    if c == '\n' || c == '#' then return d
    else if startsKey c then assignment d
    else if c == '[' then header d
    else malformed

/-- The lines of a document. -/
def lines : Nat → Draft → Scan Draft
  | 0, _ => malformed
  | n + 1, d => do
    skipGap
    let d ← statement d
    skipGap
    skipComment
    if (← get).isEmpty then return d
    skip ['\n']
    lines n d

/-- A document with plain ends of lines. -/
def plainEnds : List Char → List Char
  | '\r' :: '\n' :: cs => '\n' :: plainEnds cs
  | c :: cs => c :: plainEnds cs
  | [] => []

/-- Read a document: the entries of its root table. -/
def read (s : String) : Except Defect Value := do
  let cs := plainEnds s.toList
  let d ← onText (lines (cs.length + 1) {}) cs
  return .dict d.root

end SearchQuery.Toml
