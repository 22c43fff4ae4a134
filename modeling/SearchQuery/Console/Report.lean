import SearchQuery.Console.Files
import SearchQuery.Console.Markup
import SearchQuery.Failure

/-!
# What a run reports

A run of the program echoes plain output, shows markup and tables on two channels, and ends with
an exit code.

## Shape of the computation

`Running` keeps the console when a run stops, since what has been shown stays shown. A run stops
with an exit code, or because of a failure that no command takes care of.
-/

namespace SearchQuery

/-- Where something is shown. -/
inductive Channel where
  | output
  | errors
  deriving DecidableEq, Inhabited

/-- Something that is shown: markup, or a table with a title and two columns. -/
inductive Item where
  | markup (text : String)
  | table (title : String) (rows : List (String × String))
  deriving DecidableEq, Inhabited

/-- What a run has said, whether colour is on, whether it says more than it has to, and the files
as they are. -/
structure Console where
  echoed : String := ""
  shown : List (Channel × Item) := []
  color : Bool := true
  verbose : Bool := false
  files : FileTree := {}
  deriving Inhabited

/-- Why a run stops. -/
inductive Stop where
  | exit (code : Nat)
  | failed (cause : Failure)
  | fault (fault : FileFault) (path : FilePath)
  | noHome
  deriving Inhabited

/-- A computation that reports. -/
abbrev Running := EStateM Stop Console

namespace Running

/-- The code of a run that did what it was asked for. -/
def successCode : Nat := 0

/-- The code of a run that was asked for something wrong. -/
def mistakeCode : Nat := 1

/-- The code of a search that failed, and of arguments that make no sense. -/
def failureCode : Nat := 2

/-- End the run. -/
def exit {α : Type} (code : Nat) : Running α :=
  throw (.exit code)

/-- Go on with a result, or stop because of a failure. -/
def orStop {α : Type} : Except Failure α → Running α
  | .ok a => pure a
  | .error e => throw (.failed e)

/-- Echo a line. -/
def echo (line : String) : Running Unit :=
  modify fun c => { c with echoed := c.echoed ++ line ++ "\n" }

/-- Show something. -/
def present (channel : Channel) (item : Item) : Running Unit :=
  modify fun c => { c with shown := c.shown ++ [(channel, item)] }

/-- Show markup. -/
def print (markup : String) : Running Unit :=
  present .output (.markup markup)

/-- Show what is worth knowing. -/
def info (markup : String) : Running Unit :=
  print (Markup.styled "info" markup)

/-- Show what is worth knowing only to those who asked for it. -/
def detail (markup : String) : Running Unit := do
  if (← get).verbose then info markup

/-- Show that something worked. -/
def success (markup : String) : Running Unit :=
  print (Markup.styled "success" markup)

/-- Show a warning. -/
def warning (markup : String) : Running Unit :=
  present .errors (.markup (Markup.styled "warning" "Warning:" ++ " " ++ markup))

/-- Show an error, and what may help. -/
def error (markup : String) (hint : Option String := none) : Running Unit := do
  present .errors (.markup (Markup.styled "error" "Error:" ++ " " ++ markup))
  match hint with
  | some h => present .errors (.markup ("  " ++ Markup.styled "info" "Hint:" ++ " " ++ h))
  | none => pure ()

/-- Show a path, indented. -/
def path (p : FilePath) : Running Unit :=
  print ("   " ++ Markup.styled "path" p.text)

/-- Show a fragment of SQL, or `instead` if it is empty, and its parameters if it has any. -/
def fragment (f : Fragment Value) (instead : String) : Running Unit := do
  print (Markup.styledText "sql" (if f.sql.isEmpty then instead else f.sql))
  if !f.params.isEmpty then
    print (Markup.styledText "sql.params" (Value.list f.params).literal)

end Running

end SearchQuery
