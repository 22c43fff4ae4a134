import SearchQuery.Number.Power
import SearchQuery.Pattern.Groups

/-!
# Reading patterns

A pattern is read from text, or refused with a defect and the position that the defect is blamed on.

## Shape of the reader

`alternatives`, `sequence` and `enclosed` read by recursive descent. Each of them is given a bound on the
number of steps, which `Pattern.compile` takes from the number of tokens; every step takes a token or comes
back. How deep groups can be nested is bounded by the machine, and counted apart from the steps: the calls
that are left are part of the `Scope`.

What is read is put together in a tree as soon as it is read. Alternatives that start alike are split behind
what they share, and alternatives that are all sets of characters become one set.
-/

namespace SearchQuery.Pattern

open Reading

/-! ## Sets -/

/-- Read one end of a range, or a single member, whose token has been taken. -/
def setMember (m : Machine) (t : Token) : Reading SetItem :=
  if t.escaped then setEscape m t else return .char t.char.toNat

/-- The range of two members. The ends have to be characters, and the last one not in front of the
first. -/
def rangeOf (t u : Token) (first last : SetItem) : Reading SetItem := do
  match first, last with
  | .char a, .char b => if a ≤ b then return .range a b
  | _, _ => pure ()
  fail (.badRange t.text u.text) (t.text.length + 1 + u.text.length)

/-- Read the members of a set up to its closing bracket. A bracket that comes first is a member.
`opened` is the position of the opening bracket, and `n` bounds the number of members. -/
def setItems (m : Machine) (opened : Nat) : Nat → List SetItem → Reading (List SetItem)
  | 0, _ => failAt opened .unterminatedSet
  | n + 1, items => do
    let some t ← take? | failAt opened .unterminatedSet
    if t.isPlain ']' && !items.isEmpty then return items
    let first ← setMember m t
    if !(← skip? '-') then setItems m opened n (items ++ [first])
    else
      let some u ← take? | failAt opened .unterminatedSet
      if u.isPlain ']' then return items ++ [first, .char '-'.toNat]
      setItems m opened n (items ++ [← rangeOf t u first (← setMember m u)])

/-- Read a set, whose bracket has been taken. -/
def bracketed (m : Machine) (opened : Token) : Reading Node := do
  let negated ← skip? '^'
  let items ← setItems m opened.position ((← get).input.tokens.length + 1) []
  return .set negated items.eraseDups

/-! ## Repetitions -/

/-- The first number that is too large for the count of a repetition. -/
def countLimit : Nat := 4294967295

/-- The number that digits write, which has to be a count. -/
def countOf (ds : List Char) : Reading Nat :=
  if maxDigits < ds.length then failNowhere .countTooLong
  else if countLimit ≤ decimalValue ds then failNowhere .countTooLarge
  else return decimalValue ds

/-- The bounds in braces. A brace that starts no bounds gives none and stands for itself. -/
def braceBounds? : Reading (Option (Nat × Option Nat)) := do
  let start ← get
  if ← startsWith '\x7d' then return none
  let lo ← takeAll Char.isDigit
  let hi ← if ← skip? ',' then takeAll Char.isDigit else pure lo
  if !(← skip? '\x7d') then
    -- What looked like bounds is read again, as what it is.
    set start
    return none
  let least ← countOf lo
  let most ← if hi.isEmpty then pure none else some <$> countOf hi
  if most.any (· < least) then failAt start.input.position .repeatBounds
  return some (least, most)

/-- The bounds that a repeat operator gives, whose first character has been taken. -/
def repeatBounds? (c : Char) : Reading (Option (Nat × Option Nat)) :=
  if c == '?' then return some (0, some 1)
  else if c == '*' then return some (0, none)
  else if c == '+' then return some (1, none)
  else braceBounds?

/-- Whether a character is a repeat operator or starts one. -/
def isRepeat (c : Char) : Bool :=
  c == '*' || c == '+' || c == '?' || c == '\x7b'

/-- How a repeat operator chooses, told by what stands behind it. -/
def greedOf : Reading Greed := do
  if ← skip? '?' then return .lazy
  if ← skip? '+' then return .possessive
  return .greedy

/-- What is repeated: of a group that does nothing else, what stands in it. -/
def ungrouped : Node → Node
  | .group none on off body => if on == {} && off == {} then body else .group none on off body
  | node => node

/-- Repeat the last of the items read so far, which stand in reverse order. The position is that of the
operator. -/
def repeatLast (operator least : Nat) (most : Option Nat) (items : List Node) : Reading (List Node) :=
  match items with
  | [] | .anchor _ :: _ => failAt operator .nothingToRepeat
  | .repeated .. :: _ => failAt operator .multipleRepeat
  | item :: others => do
    return .repeated least most (← greedOf) (ungrouped item) :: others

/-! ## Sequences and alternatives -/

/-- The sequence of items. -/
def joinItems : List Node → Node
  | [] => .empty
  | [item] => item
  | item :: items => .seq item (joinItems items)

/-- The items of a sequence. -/
def itemsOf : Node → List Node
  | .empty => []
  | .seq item rest => item :: itemsOf rest
  | item => [item]

/-- Items with those of groups that do nothing else in the place of the groups. -/
def unpacked (items : List Node) : List Node :=
  items.flatMap fun item =>
    match item with
    | .group none on off body => if on == {} && off == {} then itemsOf body else [item]
    | item => [item]

/-- Whether an item has no parts, so that it is the same wherever it stands. -/
def isPlain : Node → Bool
  | .anyChar | .set .. | .anchor _ | .backref .. => true
  | _ => false

/-- The plain items that all alternatives start with, and what is left of the alternatives. At
most `n` items are split off. -/
def splitFront : Nat → List (List Node) → List Node × List (List Node)
  | 0, alternatives => ([], alternatives)
  | n + 1, alternatives =>
    match alternatives with
    | (item :: _) :: others =>
      if isPlain item && others.all (·.head? == some item) then
        let (front, left) := splitFront n (alternatives.map (·.drop 1))
        (item :: front, left)
      else ([], alternatives)
    | _ => ([], alternatives)

/-- The members of an alternative that is one set of characters. -/
def setMembers? : List Node → Option (List SetItem)
  | [.set false items] => some items
  | _ => none

/-- One of several alternatives. Alternatives that are all sets of characters are one set. -/
def eitherOf (alternatives : List (List Node)) : Node :=
  match alternatives.mapM setMembers? with
  | some sets => .set false sets.flatten.eraseDups
  | none =>
    match alternatives.map joinItems with
    | [] => .empty
    | first :: others => others.foldl .either first

/-- The tree of alternatives. -/
def joinAlternatives : List (List Node) → Node
  | [items] => joinItems items
  | alternatives =>
    let (front, left) := splitFront ((alternatives.head?.map List.length).getD 0) alternatives
    joinItems (front ++ [eitherOf left])

/-! ## Descent -/

/-- Where a part of a pattern stands: how many calls can still be nested, whether blanks and comments are
left out, whether it is the whole pattern, and whether flags of the whole pattern may come. -/
structure Scope where
  room : Nat
  verbose : Bool := false
  whole : Bool := false
  leading : Bool := false

/-- The scope of a part that is read by some more calls. -/
def Scope.inner (s : Scope) (calls : Nat) (verbose : Bool) : Reading Scope :=
  if s.room < calls then failNowhere .tooDeep else return { room := s.room - calls, verbose }

/-- Whether a token is white space. -/
def isBlank (t : Token) : Bool :=
  !t.escaped && [' ', '\t', '\n', '\r', '\x0b', '\x0c'].contains t.char

/-- Drop a comment, up to the end of its line. -/
def skipLine : Nat → Reading Unit
  | 0 => return
  | n + 1 => do
    let some t ← take? | return
    if t.isPlain '\n' then return else skipLine n

/-- Take the parenthesis that closes a group. -/
def closing (opened : Token) : Reading Unit := do
  if !(← skip? ')') then failAt opened.position .unterminatedGroup

mutual

/-- Read sequences separated by bars. -/
def alternatives (m : Machine) : Nat → Scope → Reading (List (List Node))
  | 0, _ => fail .endOfPattern
  | n + 1, s => do
    let first ← sequence m n s []
    if ← skip? '|' then
      let flags := (← get).flags
      let verbose := if s.whole then flags.verbose else s.verbose
      return first :: (← alternatives m n { s with verbose, leading := false })
    else return [first]

/-- Read items up to a bar, a closing parenthesis or the end. Those read before stand in reverse
order. -/
def sequence (m : Machine) : Nat → Scope → List Node → Reading (List Node)
  | 0, _, _ => fail .endOfPattern
  | n + 1, s, items => do
    let some t ← peek? | return unpacked items.reverse
    if t.isPlain '|' || t.isPlain ')' then return unpacked items.reverse
    advance
    -- In a verbose pattern, blanks and comments are no items.
    if s.verbose && isBlank t then sequence m n s items
    else if s.verbose && t.isPlain '#' then
      skipLine ((← get).input.tokens.length + 1)
      sequence m n s items
    else if t.escaped then sequence m n s ((← escape m t) :: items)
    else if t.char == '.' then sequence m n s (.anyChar :: items)
    else if t.char == '^' then sequence m n s (.anchor .lineStart :: items)
    else if t.char == '$' then sequence m n s (.anchor .lineEnd :: items)
    else if t.char == '[' then sequence m n s ((← bracketed m t) :: items)
    else if isRepeat t.char then
      match ← repeatBounds? t.char with
      -- A brace that does not open a repetition stands for itself.
      | none => sequence m n s (.set false [.char t.char.toNat] :: items)
      | some (least, most) => sequence m n s (← repeatLast t.position least most items)
    else if t.char == '(' then
      match ← opening t with
      | .comment => sequence m n s items
      | .flags =>
        if !s.leading || !items.isEmpty then failAt t.position .misplacedFlags
        -- Only the first item of the whole pattern may set flags, so nothing has been read in the wrong mode.
        sequence m n { s with verbose := (← get).flags.verbose } items
      | .reference node => sequence m n s (node :: items)
      | o => sequence m n s ((← enclosed m n s t o) :: items)
    else sequence m n s (.set false [.char t.char.toNat] :: items)

/-- Read the contents of a group and its closing parenthesis. -/
def enclosed (m : Machine) : Nat → Scope → Token → Opening → Reading Node
  | 0, _, _, _ => fail .endOfPattern
  | n + 1, s, t, o => do
    match o with
    | .look behind negated =>
      let outer := (← get).lookbehind
      -- Groups that are opened inside cannot be referred to from here; an outer look keeps its own mark.
      if behind then
        modify fun p => { p with lookbehind := p.lookbehind <|> some p.widths.length }
      let body := joinAlternatives (← alternatives m n (← s.inner 2 s.verbose))
      modify fun p => { p with lookbehind := outer }
      closing t
      return .look (if behind then some body.width else none) negated body
    | .conditional group =>
      let inner ← s.inner 1 s.verbose
      let yes ← sequence m n inner []
      -- A conditional has two branches at most, and no alternatives of its own.
      let no ← if ← skip? '|' then sequence m n inner [] else pure []
      if ← startsWith '|' then fail .tooManyBranches
      closing t
      return .conditional group (joinItems yes) (joinItems no)
    | .atomic =>
      let body := joinAlternatives (← alternatives m n (← s.inner 2 s.verbose))
      closing t
      return .atomic body
    | .capture name =>
      let group ← openGroup name
      let body := joinAlternatives (← alternatives m n (← s.inner 2 s.verbose))
      closing t
      closeGroup group body.width
      return .group (some group) {} {} body
    | .plain on off =>
      let verbose := (s.verbose || on.verbose) && !off.verbose
      let body := joinAlternatives (← alternatives m n (← s.inner 2 verbose))
      closing t
      return .group none on off body
    -- These have no body; the caller has dealt with them.
    | .comment | .flags | .reference _ => fail .endOfPattern

end

end SearchQuery.Pattern
