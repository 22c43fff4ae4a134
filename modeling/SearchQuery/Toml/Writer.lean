import SearchQuery.Text.Hex

/-!
# Writing a document

A document with tables of truth values and lists of texts is written with one element of a list
per line, and with an empty line between tables. Texts are written in double quotes.
-/

namespace SearchQuery.Toml

/-- A value that is written: a truth value or a list of texts. -/
inductive Setting where
  | flag (b : Bool)
  | texts (items : List String)
  deriving DecidableEq, Inhabited

/-- A table that is written: its name and its settings. -/
structure Section where
  name : String
  settings : List (String × Setting)
  deriving DecidableEq, Inhabited

/-- A character in double quotes. Control characters other than the tab are escaped. -/
def writtenChar (c : Char) : List Char :=
  match c with
  | '\x08' => ['\\', 'b']
  | '\n' => ['\\', 'n']
  | '\x0c' => ['\\', 'f']
  | '\r' => ['\\', 'r']
  | '"' => ['\\', '"']
  | '\\' => ['\\', '\\']
  | c =>
    if (c.toNat < 32 && c != '\t') || c.toNat == 127 then '\\' :: 'u' :: Text.hexDigits 4 c.toNat
    else [c]

/-- A text in double quotes. -/
def writtenText (s : String) : String :=
  String.ofList ('"' :: s.toList.flatMap writtenChar ++ ['"'])

/-- A value as it is written. -/
def Setting.text : Setting → String
  | flag b => if b then "true" else "false"
  | texts [] => "[]"
  | texts items => "[\n" ++ String.join (items.map fun s => "    " ++ writtenText s ++ ",\n") ++ "]"

/-- A table as it is written. -/
def Section.text (t : Section) : String :=
  "[" ++ t.name ++ "]\n" ++ String.join (t.settings.map fun p => p.1 ++ " = " ++ p.2.text ++ "\n")

/-- Tables as they are written. -/
def written (tables : List Section) : String :=
  "\n".intercalate (tables.map Section.text)

end SearchQuery.Toml
