import SearchQuery.Machine
import SearchQuery.Pattern.Input
import SearchQuery.Text.Hex

/-!
# Escapes in patterns

A backslash gives the character behind it another meaning, or takes its meaning away. Inside of a bracketed
set an escape stands for a member of the set. Outside of sets it may also stand for a place, or for what a
group has matched.
-/

namespace SearchQuery.Pattern

open Reading

/-! ## Letters with a meaning -/

/-- The letters that name a class of characters or its complement. -/
def classEscape? (c : Char) : Option SetItem :=
  match c with
  | 'd' => some (.named false .digit)
  | 'D' => some (.named true .digit)
  | 's' => some (.named false .space)
  | 'S' => some (.named true .space)
  | 'w' => some (.named false .word)
  | 'W' => some (.named true .word)
  | _ => none

/-- The letters that name a place. -/
def anchorEscape? (c : Char) : Option Anchor :=
  match c with
  | 'A' => some .textStart
  | 'Z' => some .textEnd
  | 'b' => some .boundary
  | 'B' => some .noBoundary
  | _ => none

/-- The letters that name a control character. -/
def controlEscape? (c : Char) : Option Char :=
  match c with
  | 'a' => some '\x07'
  | 'f' => some '\x0c'
  | 'n' => some '\n'
  | 'r' => some '\r'
  | 't' => some '\t'
  | 'v' => some '\x0b'
  | _ => none

/-- The number of hexadecimal digits that follow an escape letter. -/
def hexWidth? (c : Char) : Option Nat :=
  match c with
  | 'x' => some 2
  | 'u' => some 4
  | 'U' => some 8
  | _ => none

/-! ## Codes of characters -/

/-- Whether a character is a digit below eight. -/
def isOctal (c : Char) : Bool :=
  decide (48 ≤ c.toNat) && decide (c.toNat ≤ 55)

/-- The number that digits below eight write. -/
def octalValue (cs : List Char) : Nat :=
  cs.foldl (fun n c => 8 * n + (c.toNat - 48)) 0

/-- The number that plain digits write. -/
def decimalValue (cs : List Char) : Nat :=
  cs.foldl (fun n c => 10 * n + (c.toNat - 48)) 0

/-- The code that an octal escape writes. -/
def octalCode (t : Token) (cs : List Char) : Reading Nat := do
  let n := octalValue (t.char :: cs)
  if n ≤ 0xff then return n
  else failAt t.position (.octalOutOfRange (t.text ++ String.ofList cs))

/-- Read the hexadecimal digits of an escape, of which there must be `width`. A number that is the code of
no character is a bad escape, unless it is too large to be asked for a character. -/
def hexEscape (t : Token) (width : Nat) : Reading Nat := do
  let cs ← takeWhile (fun c => (Text.hexValue? c).isSome) width
  if cs.length < width then
    failAt t.position (.incompleteEscape (t.text ++ String.ofList cs))
  let n := (Text.ofHexDigits? cs).getD 0
  if n < 0x110000 then return n
  else if n < 0x80000000 then failAt t.position (.badEscape (t.text ++ String.ofList cs))
  else failNowhere .codeTooLarge

/-- Read the name of a character in braces. -/
def namedEscape (m : Machine) (t : Token) : Reading Nat := do
  if !(← skip? '\x7b') then fail (.missing "\x7b")
  let name ← nameUntil '\x7d' "character name"
  match m.character? name with
  | some c => return c.toNat
  | none => failAt t.position (.unknownCharacter name)

/-- The escaped character itself, unless it is a letter: those are reserved. -/
def literalEscape (t : Token) : Reading Nat :=
  if t.char.isAlpha then failAt t.position (.badEscape t.text) else return t.char.toNat

/-! ## Escapes in sets -/

/-- Read an escape inside of a bracketed set, whose token has been taken. -/
def setEscape (m : Machine) (t : Token) : Reading SetItem := do
  if t.char == 'b' then return .char 8
  match controlEscape? t.char, classEscape? t.char, hexWidth? t.char with
  | some c, _, _ => return .char c.toNat
  | _, some item, _ => return item
  | _, _, some width => return .char (← hexEscape t width)
  | none, none, none =>
    if t.char == 'N' then return .char (← namedEscape m t)
    else if isOctal t.char then return .char (← octalCode t (← takeWhile isOctal 2))
    else if t.char.isDigit then failAt t.position (.badEscape t.text)
    else return .char (← literalEscape t)

/-! ## Groups that are referred to -/

/-- The width of a group that is closed. -/
def closedWidth? (group : Nat) : Reading (Option Width) := do
  return (← get).widths[group - 1]?.join

/-- A look back cannot refer to a group that is still open, or that is in the look itself. -/
def checkLookbehind (group : Nat) : Reading Unit := do
  match (← get).lookbehind with
  | none => return
  | some groups =>
    if (← closedWidth? group).isNone then fail .openGroup
    if groups < group then fail .lookbehindGroup

/-- A reference to a group. A group that is open is blamed on the position `back` in front of the one that
has been reached. -/
def reference (group back : Nat) : Reading Node := do
  match ← closedWidth? group with
  | none => fail .openGroup back
  | some width =>
    checkLookbehind group
    return .backref group width

/-! ## Escapes outside of sets -/

/-- Read an escape that starts with a digit. Three digits below eight write a code, and others a group. -/
def numberEscape (t : Token) : Reading Node := do
  let cs ← takeWhile Char.isDigit 1
  let octal := isOctal t.char && !cs.isEmpty && cs.all isOctal
  let ds ← if octal then takeWhile isOctal 1 else pure []
  if ds.isEmpty then
    let group := decimalValue (t.char :: cs)
    if group ≤ (← get).widths.length then reference group (t.text.length + cs.length)
    else fail (.groupReference group) (1 + cs.length)
  else return .set false [.char (← octalCode t (cs ++ ds))]

/-- Read an escape outside of sets, whose token has been taken. -/
def escape (m : Machine) (t : Token) : Reading Node := do
  match anchorEscape? t.char, classEscape? t.char, controlEscape? t.char, hexWidth? t.char with
  | some place, _, _, _ => return .anchor place
  | _, some item, _, _ => return .set false [item]
  | _, _, some c, _ => return .set false [.char c.toNat]
  | _, _, _, some width => return .set false [.char (← hexEscape t width)]
  | none, none, none, none =>
    if t.char == 'N' then return .set false [.char (← namedEscape m t)]
    else if t.char == '0' then return .set false [.char (octalValue (← takeWhile isOctal 2))]
    else if t.char.isDigit then numberEscape t
    else return .set false [.char (← literalEscape t)]

end SearchQuery.Pattern
