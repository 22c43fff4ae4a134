import SearchQuery.Failure
import SearchQuery.Pattern.Search

/-!
# Exclusions

Keywords that are noise are left out of a search. What counts as noise is told by patterns and by
texts: a text excludes every keyword that contains it, whatever its case.
-/

namespace SearchQuery.Query

/-- The pattern that one member of an exclusion stands for. -/
def exclusionOf : Value → Except Failure Pattern
  | .pattern p => .ok p
  | v =>
    match v.display? with
    | some s => .ok (.literal s)
    | none => .error .badValue

/-- The patterns that an exclusion stands for: none for `null`, one for a text or a pattern, and
one for each member of a collection. -/
def exclusions : Value → Except Failure (List Pattern)
  | .null => .ok []
  | .text s => .ok [.literal s]
  | .pattern p => .ok [p]
  | v =>
    match v.items? with
    | some items => items.mapM exclusionOf
    | none => .error .wrongType

/-- Whether one of the patterns matches in a keyword. -/
def isExcluded (patterns : List Pattern) (keyword : String) : Bool :=
  patterns.any (·.search keyword)

end SearchQuery.Query
