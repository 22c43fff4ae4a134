import SearchQuery.Command.Compose
import SearchQuery.Command.InitConfig
import SearchQuery.Config.Document

/-!
# The program

The program takes options of its own, reads its configuration, and runs one of its commands.

## Shape of a run

Which command is meant is known before the configuration is read; the arguments of the command
are looked at only after that. So a configuration that cannot be used is reported even if they
make no sense, while an unknown command is not preceded by any warning.
-/

namespace SearchQuery.Command

/-- What a run depends on besides its arguments. -/
structure Environment where
  home : FilePath
  directory : FilePath
  noColor : Bool := false
  files : FileTree := {}
  modules : List Module := []
  deriving Inhabited

namespace Environment

/-- The path that a text names. -/
def locate? (e : Environment) (s : String) : Option FilePath :=
  FilePath.ofText? e.home e.directory s

/-- Where the configuration file is by default. -/
def defaultConfigPath (e : Environment) : FilePath :=
  e.home ++ [".config", "search-api", "config.toml"]

end Environment

/-- The line that tells the version. -/
def versionLine : String :=
  "search-api, version 0.3.0"

/-- The options of the program. -/
def programOptions : List OptionSpec := [
  helpOption,
  { key := "version", long := "--version" },
  { key := "config", long := "--config", short := some 'c', takesValue := true },
  { key := "no-color", long := "--no-color" },
  { key := "verbose", long := "--verbose", short := some 'v' },
  { key := "debug", long := "--debug" },
  { key := "quiet", long := "--quiet", short := some 'q' }]

/-- The commands. -/
inductive Name where
  | parse
  | compose
  | initConfig
  deriving DecidableEq, Inhabited

/-- The command of a name. -/
def Name.ofText? : String → Option Name
  | "parse" => some parse
  | "compose" => some compose
  | "init-config" => some initConfig
  | _ => none

/-- Where the configuration file is. -/
def configPath (e : Environment) (a : Arguments) : Option FilePath :=
  match a.value? "config" with
  | some s => e.locate? s
  | none => some e.defaultConfigPath

/-- Read the configuration file. There need not be one. -/
def loadConfig (e : Environment) (a : Arguments) :
    Running (Except Failure (Config × List String)) := do
  match configPath e a with
  | none => throw .noHome
  | some p =>
    let files := (← get).files
    if files.isDirectory p then throw (.fault .isDirectory p)
    return Config.load p.text (files.file? p)

/-- Prepare the console and read the configuration. Stops if it cannot be used. -/
def prepare (e : Environment) (a : Arguments) : Running Config := do
  let color := !a.has "no-color" && !e.noColor
  modify fun c => { c with color, verbose := a.has "verbose" || a.has "debug" }
  match ← loadConfig e a with
  | .error f =>
    -- A failure that is none of the library's own ends the program.
    if f.kind?.isSome then
      Running.error f.message
      Running.exit Running.mistakeCode
    else throw (.failed f)
  | .ok (config, warnings) =>
    if !config.coloredOutput then modify fun c => { c with color := false }
    if !a.has "quiet" then warnings.forM Running.warning
    return config

/-- Run a command. -/
def runCommand (e : Environment) (config : Config) (args : List String) : Name → Running Unit
  | .parse => Parse.run config args
  | .compose => Compose.run e.modules config args
  | .initConfig => InitConfig.run e.locate? e.defaultConfigPath args

/-- Run the program. -/
def run (e : Environment) (args : List String) : Running Unit := do
  if args.isEmpty then Running.exit Running.failureCode
  let a ← match sortArguments programOptions false args with
    | some a => pure a
    | none => Running.exit Running.failureCode
  match a.given.find? fun g => g.1 == "version" || g.1 == "help" with
  | some ("version", _) =>
    Running.echo versionLine
    Running.exit Running.successCode
  | some _ => Running.exit Running.successCode
  | none => pure ()
  match a.others with
  | [] => Running.exit Running.failureCode
  | word :: rest =>
    match Name.ofText? word with
    | none => Running.exit Running.failureCode
    | some name =>
      let config ← prepare e a
      runCommand e config rest name

/-- How a run ended: with an exit code, or because of something that nothing took care of. -/
structure Outcome where
  stop : Stop
  console : Console
  deriving Inhabited

/-- The outcome of a run. A run that is not stopped did what it was asked for. -/
def outcome (e : Environment) (args : List String) : Outcome :=
  match run e args { files := e.files } with
  | .ok _ c => ⟨.exit Running.successCode, c⟩
  | .error s c => ⟨s, c⟩

/-- The paths that a run may look at or write to. -/
def pathsOf (e : Environment) (args : List String) : List FilePath :=
  match sortArguments programOptions false args with
  | none => []
  | some a =>
    let output := match a.others with
      | [] => []
      | _ :: rest =>
        match sortArguments (helpOption :: InitConfig.options) true rest with
        | some b => ((b.value? "output").bind e.locate?).toList
        | none => []
    (configPath e a).toList ++ e.defaultConfigPath :: output

end SearchQuery.Command
