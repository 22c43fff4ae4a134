import SearchQuery.Number.Reading
import SearchQuery.Pattern.Escape
import SearchQuery.Text.Identifier

/-!
# Groups in patterns

A parenthesis groups what stands in it, and what the group is for is told by a question mark and the
characters behind it. Some parentheses are read as a whole right away: comments, flags of the whole pattern,
and references to named groups. Of the others only what stands in front of the contents is read here.
-/

namespace SearchQuery.Pattern

open Reading

/-- What a parenthesis starts. -/
inductive Opening where
  | comment
  | flags
  | reference (node : Node)
  | look (behind negated : Bool)
  | conditional (group : Nat)
  | atomic
  | capture (name : Option String)
  | plain (on off : Flags)

/-! ## Names and numbers of groups -/

/-- The name of a group has to be an identifier. -/
def checkName (name : String) : Reading Unit := do
  if !Text.isIdentifier name then fail (.badGroupName name) (name.length + 1)

/-- The group of a name. -/
def groupOf (name : String) : Reading Nat := do
  match (← get).names.lookup name with
  | some group => return group
  | none => fail (.unknownGroup name) (name.length + 1)

/-- The first number that is too large for a group. -/
def groupLimit : Nat := 1073741823

/-- The group of a number. Whether there is such a group is known at the end of the pattern. -/
def numberedGroup (name : String) : Reading Nat := do
  match Number.readInt? name with
  | some (.ofNat group) =>
    if group == 0 then fail .groupNumber (name.length + 1)
    if groupLimit ≤ group then fail (.groupReference group) (name.length + 1)
    let here ← position
    modify fun p =>
      if (p.references.lookup group).isSome then p
      else { p with references := p.references ++ [(group, here - (name.length + 1))] }
    return group
  | _ => fail (.badGroupName name) (name.length + 1)

/-- The group that a condition asks for. -/
def conditionGroup : Reading Nat := do
  let name ← nameUntil ')' "group name"
  let group ← if Text.isIdentifier name then groupOf name else numberedGroup name
  checkLookbehind group
  return group

/-- A new group, which is open, and its number. -/
def openGroup (name : Option String) : Reading Nat := do
  let group := (← get).widths.length + 1
  match name with
  | none => modify fun p => { p with widths := p.widths ++ [none] }
  | some name =>
    match (← get).names.lookup name with
    | some earlier => fail (.repeatedGroup name group earlier) (name.length + 1)
    | none =>
      modify fun p => { p with widths := p.widths ++ [none], names := p.names ++ [(name, group)] }
  return group

/-- Close a group. -/
def closeGroup (group : Nat) (width : Width) : Reading Unit :=
  modify fun p => { p with widths := p.widths.set (group - 1) (some width) }

/-! ## Flags -/

/-- The flag of a token, if it is the letter of one. There is a letter of a flag that texts cannot have. -/
def isFlagLetter (t : Token) : Bool :=
  !t.escaped && (t.char == 'L' || (Flags.ofLetter? t.char).isSome)

/-- Blame a token that is no letter of a flag. -/
def failAtFlag {α : Type} (t : Token) (what : String) : Reading α :=
  fail (if !t.escaped && Text.isLetter t.char then .unknownFlag else .missing what) t.text.length

/-- Read the letters of flags that are turned on, of which the first has been taken, and the character
behind them. -/
def flagsOn : Nat → Char → Flags → Reading (Flags × Char)
  | 0, _, _ => fail .endOfPattern
  | n + 1, letter, on => do
    let some flag := Flags.ofLetter? letter
      | fail (.badFlags "cannot use 'L' flag with a str pattern")
    let on := on.or flag
    if flag.meets .alphabet && on.and .alphabet != flag then
      fail (.badFlags "flags 'a', 'u' and 'L' are incompatible")
    let t ← takeOr (.missing "-, : or )")
    if t.isPlain ')' || t.isPlain '-' || t.isPlain ':' then return (on, t.char)
    if isFlagLetter t then flagsOn n t.char on else failAtFlag t "-, : or )"

/-- Read the letters of flags that are turned off, of which the first has been taken, and the colon behind
them. -/
def flagsOff : Nat → Char → Flags → Reading Flags
  | 0, _, _ => fail .endOfPattern
  | n + 1, letter, off => do
    let some flag := (Flags.ofLetter? letter).filter (!·.meets .alphabet)
      | fail (.badFlags "cannot turn off flags 'a', 'u' and 'L'")
    let off := off.or flag
    let t ← takeOr (.missing ":")
    if t.isPlain ':' then return off
    if isFlagLetter t then flagsOff n t.char off else failAtFlag t ":"

/-- Read flags, of which the first character has been taken. Those in front of a closing parenthesis are
flags of the whole pattern, and others of a group. -/
def flagsOpening (first : Char) : Reading Opening := do
  let steps := (← get).input.tokens.length + 1
  let (on, behind) ← if first == '-' then pure ({}, '-') else flagsOn steps first {}
  -- Flags for the whole pattern are collected; the caller knows whether they may stand here.
  if behind == ')' then
    modify fun p => { p with flags := p.flags.or on }
    return .flags
  if on.template then fail (.badFlags "cannot turn on global flag") 1
  if behind == ':' then return .plain on {}
  let t ← takeOr (.missing "flag")
  if !isFlagLetter t then failAtFlag t "flag"
  let off ← flagsOff steps t.char {}
  if off.template then fail (.badFlags "cannot turn off global flag") 1
  -- Both lists are complete only here, so the clash is told last.
  if on.meets off then fail (.badFlags "flag turned on and off") 1
  return .plain on off

/-! ## What a parenthesis starts -/

/-- Drop a comment, up to its closing parenthesis. -/
def skipComment (opened : Nat) : Nat → Reading Unit
  | 0 => failAt opened .unterminatedComment
  | n + 1 => do
    let some t ← peek? | failAt opened .unterminatedComment
    advance
    if t.isPlain ')' then return else skipComment opened n

/-- Read what stands in front of the contents of a group with a name, or of a reference to one. -/
def namedOpening : Reading Opening := do
  if ← skip? '<' then
    let name ← nameUntil '>' "group name"
    checkName name
    return .capture (some name)
  else if ← skip? '=' then
    let name ← nameUntil ')' "group name"
    checkName name
    return .reference (← reference (← groupOf name) (name.length + 1))
  else
    let t ← takeOr .endOfPattern
    fail (.unknownExtension ("P" ++ t.text)) (t.text.length + 2)

/-- Read what stands behind the bracket of a look back. -/
def lookBehindOpening : Reading Opening := do
  let t ← takeOr .endOfPattern
  if t.isPlain '=' then return .look true false
  else if t.isPlain '!' then return .look true true
  else fail (.unknownExtension ("<" ++ t.text)) (t.text.length + 2)

/-- Read what stands in front of the contents of a group, whose parenthesis has been taken. -/
def opening (opened : Token) : Reading Opening := do
  if !(← skip? '?') then return .capture none
  let t ← takeOr .endOfPattern
  if t.isPlain 'P' then namedOpening
  else if t.isPlain ':' then return .plain {} {}
  else if t.isPlain '#' then
    skipComment opened.position ((← get).input.tokens.length + 1)
    return .comment
  else if t.isPlain '=' then return .look false false
  else if t.isPlain '!' then return .look false true
  else if t.isPlain '<' then lookBehindOpening
  else if t.isPlain '(' then return .conditional (← conditionGroup)
  else if t.isPlain '>' then return .atomic
  else if t.isPlain '-' || isFlagLetter t then flagsOpening t.char
  else fail (.unknownExtension t.text) (t.text.length + 1)

end SearchQuery.Pattern
