import SearchQuery.Text.Blank
import SearchQuery.Value.Fragments

/-!
# Option-maps

An option-map is what a search attribute contributes to a search: a mapping with any of the keys
`conditions`, `include`, `joins`, `order`, `select`, `group` and `having`. Blank values contribute
nothing.
-/

namespace SearchQuery.FindOptions

/-- The keys of option-maps. -/
def keys : List String :=
  ["conditions", "include", "joins", "order", "select", "group", "having"]

/-- Whether a value is one of the keys of option-maps. -/
def isKey (v : Value) : Bool :=
  v.text?.any keys.contains

/-- Accept an option-map, or `null`, which contributes nothing. -/
def validate : Value → Except Failure Unit
  | .null => .ok ()
  | .dict entries =>
    let unknown := (entries.map (·.1)).filter (!isKey ·)
    if unknown.isEmpty then .ok ()
    else if Value.anyTooLong unknown then .error .badValue
    else .error (.ofKeys unknown)
  | v =>
    if v.isTooLong then .error .badValue
    else .error (.invalidFindOptions []
      (some ("Find options must be a mapping, got " ++ v.literal)))

/-- Whether a value contributes nothing: `null`, white space, a fragment of white space, or a
collection without members. -/
def isBlank : Value → Bool
  | .null => true
  | .text s => Text.isBlank s
  | .fragment f => Text.isBlank f.sql
  | .list items | .tuple items | .set items => items.isEmpty
  | .range start stop step => Value.rangeLength start stop step == 0
  | .bytes bs => bs.isEmpty
  | .dict entries => entries.isEmpty
  | _ => false

end SearchQuery.FindOptions
