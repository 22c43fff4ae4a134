import SearchQuery.Config.Basic
import SearchQuery.Toml.Document
import SearchQuery.Toml.Writer

/-!
# Configuration files

A configuration file has the sections `text`, `bridge` and `display`. Settings that are missing
keep their defaults, and what the program does not know is left alone.

## Shape of reading

The settings are read in a fixed order, and the first one that is not what it has to be is the
one that is reported. Only then are the patterns checked.
-/

namespace SearchQuery.Config

/-- A setting of a section. A section that is no table has no settings; if it can be searched, it
may only not mention the setting. -/
def setting? (part : Value) (key : String) : Except Failure (Option Value) :=
  let absent (found : Bool) : Except Failure (Option Value) :=
    if found then .error .wrongType else .ok none
  match part with
  | .dict entries => .ok (Value.lookupText entries key)
  | .text s => absent ((s.splitOn key).length != 1)
  | .list items | .tuple items | .set items => absent (items.any (Value.same (.text key)))
  | .range .. => .ok none
  | _ => .error .wrongType

/-- A section of a document. A missing one is empty. -/
def section? (document : Value) (name : String) : Except Failure Value :=
  match document with
  | .dict entries => .ok ((Value.lookupText entries name).getD (.dict []))
  | _ => .error .noAttribute

/-- Read a setting that is a truth value. -/
def flag (part : Value) (name key : String) (default : Bool) : Except Failure Bool := do
  match ← setting? part key with
  | none => return default
  | some (.bool b) => return b
  | some _ => throw (.configInvalid (.text (name ++ "." ++ key)) "must be a boolean")

/-- The patterns that a setting lists; a text is a list of one. -/
def patternTexts : Value → Except Failure (List String)
  | .text s => .ok [s]
  | v =>
    match v with
    | .list items =>
      match items.mapM Value.text? with
      | some texts => .ok texts
      | none => invalid
    | _ => invalid
where
  /-- The failure of a setting that is no list of texts. -/
  invalid : Except Failure (List String) :=
    .error (.configInvalid (.text "text.exclude") "must be a list of strings")

/-- Read the configuration that a document holds. -/
def ofDocument (path : Option String) (document : Value) : Except Failure Config := do
  let defaults : Config := {}
  let text ← section? document "text"
  let exclude ← match ← setting? text "exclude" with
    | none => pure defaults.exclude
    | some v => patternTexts v
  let parseMeta ← flag text "text" "parse_meta" defaults.parseMeta
  let bridge ← section? document "bridge"
  let typeCast ← flag bridge "bridge" "type_cast" defaults.typeCast
  let display ← section? document "display"
  let coloredOutput ← flag display "display" "colored_output" defaults.coloredOutput
  return { exclude, parseMeta, typeCast, coloredOutput, path }

/-- A configuration that has passed its check, with what to warn of. -/
def checked (c : Config) (m : Machine := {}) : Except Failure (Config × List String) := do
  return (c, ← c.validate m)

/-- Read the text of a configuration file. -/
def ofText (path text : String) (m : Machine := {}) : Except Failure (Config × List String) := do
  let document ← match Toml.read text with
    | .ok v => pure v
    | .error .malformed => throw (.configUnreadable path "the document is malformed")
    | .error .tooManyDigits => throw .badValue
    | .error .tooDeep => throw .endlessRecursion
  checked (← ofDocument (some path) document) m

/-- What to warn of when there is no configuration file. -/
def missingWarning (path : String) : String :=
  "No config file found at " ++ path ++ ". Using defaults. " ++
    "Create config with: search-api init-config"

/-- The configuration of a program whose configuration file, if it exists, has the given text. -/
def load (path : String) (text : Option String) (m : Machine := {}) :
    Except Failure (Config × List String) :=
  match text with
  | some s => ofText path s m
  | none => do
    let (c, warnings) ← checked {} m
    return (c, missingWarning path :: warnings)

/-- The configuration as a file. Casting is off by default and is written only when it is on. -/
def text (c : Config) : String :=
  let always : List Toml.Section := [
    ⟨"text", [("exclude", .texts c.exclude), ("parse_meta", .flag c.parseMeta)]⟩,
    ⟨"display", [("colored_output", .flag c.coloredOutput)]⟩]
  Toml.written (always ++ if c.typeCast then [⟨"bridge", [("type_cast", .flag true)]⟩] else [])

end SearchQuery.Config
