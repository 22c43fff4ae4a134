/-!
# Arguments

The arguments of a command are options, some of which take a value, and everything else.

## Shape of an option

A long option starts with two dashes; its value follows it, or an equals sign in the same
argument. Several short options may share one argument; the first of them that takes a value takes
the rest of the argument, or else the next one. After the argument `--` there are no more options,
and where options may not follow other arguments there are none after the first of those either.
A dash alone is no option.
-/

namespace SearchQuery.Command

/-- An option: the name it is known by, how it is written, and whether it takes a value. -/
structure OptionSpec where
  key : String
  long : String
  short : Option Char := none
  takesValue : Bool := false
  deriving DecidableEq, Inhabited

/-- The options that were given with their values, in order, and the other arguments. Options
without a value have an empty one. -/
structure Arguments where
  given : List (String × String) := []
  others : List String := []
  deriving DecidableEq, Inhabited

namespace Arguments

/-- Whether an option was given. -/
def has (a : Arguments) (key : String) : Bool :=
  a.given.any (·.1 == key)

/-- All values that were given for an option. -/
def values (a : Arguments) (key : String) : List String :=
  (a.given.filter (·.1 == key)).map (·.2)

/-- The last value that was given for an option. -/
def value? (a : Arguments) (key : String) : Option String :=
  (a.values key).getLast?

end Arguments

/-- What one argument says: options with their values, and the option that takes the next argument
as its value. -/
structure Opened where
  given : List (String × String)
  awaiting : Option String := none
  deriving DecidableEq, Inhabited

/-- Whether an argument is written like an option. -/
def isOption (arg : String) : Bool :=
  match arg.toList with
  | '-' :: _ :: _ => true
  | _ => false

/-- The options of an argument that starts with one dash. -/
def openShort (specs : List OptionSpec) : List Char → Option Opened
  | [] => some ⟨[], none⟩
  | c :: cs =>
    match specs.find? (·.short == some c) with
    | none => none
    | some spec =>
      if !spec.takesValue then
        (openShort specs cs).map fun o => { o with given := (spec.key, "") :: o.given }
      else if cs.isEmpty then some ⟨[], some spec.key⟩
      else some ⟨[(spec.key, String.ofList cs)], none⟩

/-- The long option of an argument, with the value behind an equals sign. -/
def openLong (spec : OptionSpec) (value : Option String) : Option Opened :=
  match value with
  | some v => if spec.takesValue then some ⟨[(spec.key, v)], none⟩ else none
  | none => if spec.takesValue then some ⟨[], some spec.key⟩ else some ⟨[(spec.key, "")], none⟩

/-- The options of an argument that is written like one. -/
def openOption (specs : List OptionSpec) (arg : String) : Option Opened :=
  let cs := arg.toList
  let name := cs.takeWhile (· != '=')
  let value := if name.length < cs.length then
    some (String.ofList (cs.drop (name.length + 1))) else none
  match specs.find? (·.long == String.ofList name) with
  | some spec => openLong spec value
  | none =>
    match cs with
    | '-' :: '-' :: _ => none
    | _ => openShort specs (cs.drop 1)

/-- Sort arguments. Options may follow other arguments if `mixed` is set. -/
def sortArguments (specs : List OptionSpec) (mixed : Bool) : List String → Option Arguments
  | [] => some {}
  | arg :: args =>
    if arg == "--" then some { others := args }
    else if isOption arg then
      match openOption specs arg with
      | none => none
      | some ⟨given, none⟩ =>
        (sortArguments specs mixed args).map fun a => { a with given := given ++ a.given }
      -- The option takes the next argument, whatever it looks like.
      | some ⟨given, some key⟩ =>
        match args with
        | [] => none
        | v :: args =>
          (sortArguments specs mixed args).map fun a =>
            { a with given := given ++ (key, v) :: a.given }
    else if mixed then
      (sortArguments specs mixed args).map fun a => { a with others := arg :: a.others }
    -- Without mixing, options end at the first argument that is none.
    else some { others := arg :: args }

end SearchQuery.Command
