import SearchQuery.Command.Arguments
import SearchQuery.Config.Basic
import SearchQuery.Console.Report
import SearchQuery.Json.Writer
import SearchQuery.Query.Criterion

/-!
# The command `parse`

`parse` shows how a search string is read, and the condition it makes on the columns that are
named.
-/

namespace SearchQuery.Command

/-- The option that every command has. -/
def helpOption : OptionSpec := { key := "help", long := "--help" }

/-- The option that chooses how results are shown. -/
def formatOption : OptionSpec :=
  { key := "format", long := "--format", short := some 'f', takesValue := true }

/-- Whether results are shown as JSON. Stops if the format is not known. -/
def wantsJson (a : Arguments) : Running Bool :=
  match a.value? "format" with
  | none => return false
  | some "table" => return false
  | some "json" => return true
  | some _ => Running.exit Running.failureCode

/-- The sorted arguments of a command. Stops if they make no sense or ask for help. -/
def sorted (specs : List OptionSpec) (args : List String) : Running Arguments := do
  match sortArguments (helpOption :: specs) true args with
  | none => Running.exit Running.failureCode
  | some a => if a.has "help" then Running.exit Running.successCode else return a

namespace Parse

/-- The options of the command. -/
def options : List OptionSpec := [
  { key := "field", long := "--field", short := some 'F', takesValue := true },
  { key := "no-meta", long := "--no-meta" },
  { key := "exclude", long := "--exclude", short := some 'x', takesValue := true },
  { key := "no-exclude", long := "--no-exclude" },
  formatOption]

/-- The patterns of noise: none, those given, or those of the configuration. A pattern that cannot
be read comes with its error. -/
def exclusions (config : Config) (a : Arguments) :
    Except (String × PatternError) (List Pattern) :=
  let given := a.values "exclude"
  if a.has "no-exclude" then .ok []
  else
    (if given.isEmpty then config.exclude else given).mapM fun p =>
      (Pattern.compile p false).mapError fun e => (p, e)

/-- Texts as a value. -/
def textList (texts : List String) : Value :=
  .list (texts.map .text)

/-- What is shown of a criterion, and of its condition if there is one. -/
def report (c : Criterion) (condition : Option (Fragment Value)) : Value :=
  let k := c.keywords
  .dict ([(.text "query", .text c.query), (.text "mandatory", textList k.mandatory),
      (.text "negative", textList k.negative), (.text "optional", textList k.optional),
      (.text "meta", .dict (k.pairs.map fun p => (.text p.1, textList p.2))),
      (.text "normalized", .text c.text)] ++
    condition.toList.map fun f => (.text "condition",
      .dict [(.text "sql", .text f.sql), (.text "params", .list f.params)]))

/-- The row of a sort of keywords. -/
def keywordRow (sort : String) (words : List String) : String × String :=
  (sort, Markup.styled ("keyword." ++ sort) (", ".intercalate (words.map Markup.escape)))

/-- The rows of a criterion. -/
def rows (c : Criterion) : List (String × String) :=
  let k := c.keywords
  [keywordRow "mandatory" k.mandatory, keywordRow "negative" k.negative,
    keywordRow "optional" k.optional] ++
  (k.pairs.map fun p =>
    ("meta " ++ Markup.escape p.1, Markup.styledText "keyword.meta" (", ".intercalate p.2))) ++
  [("normalized", Markup.escape c.text)]

/-- Show a criterion, and its condition if there is one, as a table. -/
def showTable (c : Criterion) (condition : Option (Fragment Value)) : Running Unit := do
  Running.present .output (.table ("Query: " ++ Markup.escape c.query) (rows c))
  match condition with
  | some f => Running.fragment f "(no condition)"
  | none => pure ()

/-- Run the command. -/
def run (config : Config) (args : List String) : Running Unit := do
  let a ← sorted options args
  if a.others.isEmpty then Running.exit Running.failureCode
  let json ← wantsJson a
  let patterns ← match exclusions config a with
    | .ok ps => pure ps
    | .error (p, e) => do
      -- Only defects that are errors of patterns are caught here.
      if !e.defect.isReported then throw (.failed (.ofPattern e))
      Running.error ("Invalid exclude pattern: " ++ e.message p)
      Running.exit Running.mistakeCode
  let pairing := !a.has "no-meta" && config.parseMeta
  Running.detail ("Excluding " ++ toString patterns.length ++ " pattern(s), meta keywords " ++
    if pairing then "on" else "off")
  let c := Criterion.read ⟨patterns, pairing⟩ (" ".intercalate a.others)
  let fields := a.values "field"
  let condition := if fields.isEmpty then none else some (c.condition fields)
  if json then Running.echo (← Running.orStop (JsonText.text (report c condition)))
  else showTable c condition
  Running.exit Running.successCode

end Parse

end SearchQuery.Command
