import SearchQuery.Pattern.Basic
import SearchQuery.Pattern.Defect

/-!
# The text of a pattern

A pattern is read from tokens: a token is a character, or a backslash with the character after it. A
backslash that ends the text is found one token early, when the token before it is taken, and so comes
before any other defect of that token.

What has been read so far bears on how the rest is read: the flags, the groups and their names, and whether
a look back is being read. All of this is carried along as `Progress`.
-/

namespace SearchQuery.Pattern

/-! ## Tokens -/

/-- A character of the text, escaped or not, and its position. -/
structure Token where
  position : Nat
  escaped : Bool
  char : Char

namespace Token

/-- The text of a token. -/
def text (t : Token) : String :=
  if t.escaped then String.ofList ['\\', t.char] else String.ofList [t.char]

/-- Whether a token is the given character, not escaped. -/
def isPlain (t : Token) (c : Char) : Bool :=
  !t.escaped && t.char == c

end Token

/-- Cut a text into tokens. Also reports whether a lone backslash is left over. -/
def tokenize (position : Nat) : List Char → List Token × Bool
  | [] => ([], false)
  | '\\' :: c :: cs =>
    let (ts, d) := tokenize (position + 2) cs
    (⟨position, true, c⟩ :: ts, d)
  | ['\\'] => ([], true)
  | c :: cs =>
    let (ts, d) := tokenize (position + 1) cs
    (⟨position, false, c⟩ :: ts, d)

/-- The tokens still to be read, the length of the text, and whether a backslash ends it. -/
structure Input where
  tokens : List Token
  length : Nat
  dangling : Bool

namespace Input

/-- The position of the next token, or the end of the text. -/
def position (i : Input) : Nat :=
  match i.tokens with
  | t :: _ => t.position
  | [] => if i.dangling then i.length - 1 else i.length

/-- Fail if a lone backslash comes next. -/
def checked (i : Input) : Except PatternError Input :=
  if i.tokens.isEmpty && i.dangling then .error ⟨.escapeAtEnd, some (i.length - 1)⟩ else .ok i

/-- The input behind its first token. -/
def rest (i : Input) : Except PatternError Input :=
  checked { i with tokens := i.tokens.drop 1 }

/-- Whether the next token is the given character, not escaped. -/
def startsWith (i : Input) (c : Char) : Bool :=
  i.tokens.head?.any (·.isPlain c)

end Input

/-! ## Readers -/

/-- What is left of the text, the flags of the whole pattern, the widths of the groups (none for a group
that is not closed yet), the names of groups, the number of groups in front of the outermost look back
that is being read, and the groups that conditions refer to by number, with their positions. -/
structure Progress where
  input : Input
  flags : Flags
  widths : List (Option Width) := []
  names : List (String × Nat) := []
  lookbehind : Option Nat := none
  references : List (Nat × Nat) := []

/-- Reading goes on from what has been read, or stops at a defect. -/
abbrev Reading := StateT Progress (Except PatternError)

namespace Reading

/-- Stop at a defect, which is blamed on a position. -/
def failAt {α : Type} (position : Nat) (d : PatternDefect) : Reading α :=
  throw ⟨d, some position⟩

/-- The position that has been reached. -/
def position : Reading Nat := do
  return (← get).input.position

/-- Stop at a defect, which is blamed on the position that has been reached or on one in front of it. -/
def fail {α : Type} (d : PatternDefect) (back : Nat := 0) : Reading α := do
  failAt ((← position) - back) d

/-- Stop at a defect that is blamed on no position. -/
def failNowhere {α : Type} (d : PatternDefect) : Reading α :=
  throw ⟨d, none⟩

/-- The next token. -/
def peek? : Reading (Option Token) := do
  return (← get).input.tokens.head?

/-- Go on behind the next token. -/
def advance : Reading Unit := do
  let p ← get
  set { p with input := ← p.input.rest }

/-- Take the next token. -/
def take? : Reading (Option Token) := do
  let t ← peek?
  advance
  return t

/-- Take the next token, which has to be there. -/
def takeOr (d : PatternDefect) : Reading Token := do
  match ← take? with
  | some t => return t
  | none => fail d

/-- Whether the given character comes next. -/
def startsWith (c : Char) : Reading Bool := do
  return (← get).input.startsWith c

/-- Take the given character if it comes next. -/
def skip? (c : Char) : Reading Bool := do
  if ← startsWith c then
    advance
    return true
  else return false

/-- Take at most `n` characters that satisfy `p`. -/
def takeWhile (p : Char → Bool) : Nat → Reading (List Char)
  | 0 => return []
  | n + 1 => do
    match ← peek? with
    | some t =>
      if !t.escaped && p t.char then
        advance
        return t.char :: (← takeWhile p n)
      else return []
    | none => return []

/-- As many characters that satisfy `p` as there are. -/
def takeAll (p : Char → Bool) : Reading (List Char) := do
  takeWhile p (← get).input.tokens.length

/-- The text of at most `n` tokens up to the given character, which is taken too. -/
def textUntil (terminator : Char) : Nat → Reading (Option String)
  | 0 => return none
  | n + 1 => do
    match ← take? with
    | none => return none
    | some t =>
      if t.isPlain terminator then return some ""
      else return (← textUntil terminator n).map (t.text ++ ·)

/-- A name up to the given character. -/
def nameUntil (terminator : Char) (what : String) : Reading String := do
  let start ← position
  match ← textUntil terminator ((← get).input.tokens.length + 1) with
  | some name => if name.isEmpty then failAt start (.missing what) else return name
  | none =>
    if (← position) == start then failAt start (.missing what)
    else failAt start (.unterminatedName terminator)

end Reading

end SearchQuery.Pattern
