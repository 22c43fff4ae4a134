import SearchQuery.Failure

/-!
# Configuration

The configuration says which keywords are noise, whether search strings may hold pairs, whether
automatic attributes cast their values, and whether output is coloured.
-/

namespace SearchQuery

/-- The settings of the program. `path` is where they were read from, if anywhere. -/
structure Config where
  exclude : List String := ["^[^0-9].\x7b0,2\x7d$"]
  parseMeta : Bool := true
  typeCast : Bool := false
  coloredOutput : Bool := true
  path : Option String := none
  deriving DecidableEq, Inhabited

namespace Config

/-- The first pattern that cannot be read, with its defect. -/
def badPattern? (patterns : List String) (m : Machine := {}) : Option (String × PatternError) :=
  patterns.findSome? fun p =>
    match Pattern.compile p false m with
    | .ok _ => none
    | .error e => some (p, e)

/-- What to warn of when there is no noise. -/
def emptyWarning : String :=
  "text.exclude is empty: short noise words will be searched"

/-- Check the patterns. A defect is a failure; no patterns at all are worth a warning. -/
def validate (c : Config) (m : Machine := {}) : Except Failure (List String) :=
  match badPattern? c.exclude m with
  | some (p, e) =>
    .error (if e.defect.isReported then .configInvalid (.text "text.exclude") (e.message p)
      else .ofPattern e)
  | none => .ok (if c.exclude.isEmpty then [emptyWarning] else [])

/-- The patterns of noise. -/
def patterns (c : Config) (m : Machine := {}) : Except Failure (List Pattern) :=
  c.exclude.mapM fun p => (Pattern.compile p false m).mapError Failure.ofPattern

end Config

end SearchQuery
