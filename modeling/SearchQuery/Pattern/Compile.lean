import SearchQuery.Pattern.Reader

/-!
# Compiling patterns

A text that has been read to the end is not a pattern yet. The flags must fit together, the groups that
conditions refer to must be there, a look back must know how far it looks back, and a template must not
repeat anything.

## Shape of the check

A tree is checked from left to right, by functions that call themselves for the parts that a node has of its
own, so how deep these can be nested is bounded by the machine. Alternatives are parts of one node, however
many there are.
-/

namespace SearchQuery

namespace Node

/-- The largest number of characters that a look back can look back. -/
def lookbehindLimit : Nat := 4294967295

/-- The name of the operator that repeats. -/
def operatorName : Greed → String
  | .greedy => "MAX_REPEAT"
  | .lazy => "MIN_REPEAT"
  | .possessive => "POSSESSIVE_REPEAT"

/-- The calls that are left for a part of a node. -/
def inner : Nat → Except PatternError Nat
  | 0 => .error ⟨.tooDeep, none⟩
  | room + 1 => .ok room

/-- A look back knows how far it looks back. -/
def checkBehind : Option Width → Except PatternError Unit
  | none => .ok ()
  | some w =>
    if lookbehindLimit < w.least then .error ⟨.lookbehindTooLong, none⟩
    else if w.most != some w.least then .error ⟨.lookbehindWidth, none⟩
    else .ok ()

/-- Check a tree, as a template or not. -/
def check (template : Bool) : Nat → Node → Except PatternError Unit
  | _, .empty | _, .anyChar | _, .set .. | _, .anchor _ | _, .backref .. => .ok ()
  | room, .seq first second => do
    first.check template room
    second.check template room
  | room, .either left right => do
    match left with
    | .either .. => left.check template room
    | _ => left.check template (← inner room)
    right.check template (← inner room)
  | room, .repeated _ _ greed body => do
    if template then throw ⟨.templateRepeat (operatorName greed), none⟩
    body.check template (← inner room)
  | room, .group _ _ _ body | room, .atomic body => do
    body.check template (← inner room)
  | room, .look behind _ body => do
    checkBehind behind
    body.check template (← inner room)
  | room, .conditional _ yes no => do
    yes.check template (← inner room)
    no.check template (← inner room)

end Node

namespace Pattern

/-- What has been read to the end: the tree, and what is known then. -/
def wholeOf (m : Machine) (source : String) (ignoreCase : Bool) : Except PatternError (Node × Progress) := do
  let (tokens, dangling) := tokenize 0 source.toList
  let input ← Input.checked ⟨tokens, source.length, dangling⟩
  let scope : Scope := { room := m.frames, whole := true, leading := true }
  let (found, p) ← (alternatives m (3 * tokens.length + 3) scope).run { input, flags := { ignoreCase } }
  return (joinAlternatives found, p)

/-- The flags of a pattern. All letters and digits are considered if only plain ones are not asked for. -/
def flagsOf (f : Flags) : Except PatternError Flags :=
  if f.ascii && f.unicode then .error ⟨.clashingFlags, none⟩ else .ok { f with unicode := !f.ascii }

/-- Whether the text is used up and the groups that conditions refer to are there. -/
def checkEnd (p : Progress) : Except PatternError Unit := do
  if !p.input.tokens.isEmpty then throw ⟨.unbalancedParenthesis, some p.input.position⟩
  match p.references.find? (decide <| p.widths.length < ·.1) with
  | some (group, position) => throw ⟨.groupReference group, some position⟩
  | none => return

/-- Read a pattern from text. -/
def compile (source : String) (ignoreCase : Bool) (m : Machine := {}) : Except PatternError Pattern := do
  let (node, p) ← wholeOf m source ignoreCase
  let flags ← flagsOf p.flags
  checkEnd p
  node.check flags.template m.frames
  return ⟨source, flags, node⟩

end Pattern

end SearchQuery
