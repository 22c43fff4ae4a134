import SearchQuery.Command.Parse

/-!
# The command `init-config`

`init-config` writes a commented configuration file with the default settings.
-/

namespace SearchQuery.Command.InitConfig

/-- The lines of the file. -/
def exampleLines : List String := [
  "# search-api configuration",
  "#",
  "# Default location: ~/.config/search-api/config.toml",
  "",
  "[text]",
  "# Regular expressions matching keywords the full_text operator ignores.",
  "# The default drops short non-numeric noise words (\"a\", \"the\", \"of\"...).",
  "exclude = [\"^[^0-9].\x7b0,2\x7d$\"]",
  "",
  "# Split key:value pairs out of free-text queries as meta keywords.",
  "parse_meta = true",
  "",
  "[bridge]",
  "# Cast search attribute values according to the column type",
  "# for automatically declared attributes.",
  "type_cast = false",
  "",
  "[display]",
  "colored_output = true"]

/-- The text of the file. -/
def exampleText : String :=
  String.join (exampleLines.map (· ++ "\n"))

/-- The options of the command. -/
def options : List OptionSpec := [
  { key := "force", long := "--force", short := some 'f' },
  { key := "output", long := "--output", short := some 'o', takesValue := true }]

/-- Write the file, in a directory that is made if it is missing. -/
def install (files : FileTree) (p : FilePath) : Except (FileFault × FilePath) FileTree := do
  (← files.makeDirectory p.dropLast).write p exampleText

/-- Run the command. `locate?` finds the path of a text, and `default` is where the file belongs
if the arguments do not say. -/
def run (locate? : String → Option FilePath) (default : FilePath) (args : List String) :
    Running Unit := do
  let a ← sorted options args
  if !a.others.isEmpty then Running.exit Running.failureCode
  let p ← match a.value? "output" with
    | none => pure default
    | some s =>
      match locate? s with
      | some p => pure p
      -- The path starts with the home of a user who has none.
      | none => throw .noHome
  let files := (← get).files
  if files.hasPath p && !a.has "force" then
    Running.error ("Config file already exists: " ++ p.text) (some "Use --force to overwrite")
    Running.exit Running.mistakeCode
  match install files p with
  | .error (fault, path) =>
    Running.error ("Failed to write config file: " ++ fault.message path)
    Running.exit Running.mistakeCode
  | .ok files => modify fun c => { c with files }
  Running.success "Created config file"
  Running.path p
  Running.info "Edit this file to tune full-text exclusion and type casting."

end SearchQuery.Command.InitConfig
