import SearchQuery.Json.Datum
import SearchQuery.Machine
import SearchQuery.Number.Numeral

/-!
# Reading JSON

A value on a command line may be written in JSON. Besides what the format has, the numbers `NaN`,
`Infinity` and `-Infinity` are read. A number with a fraction or an exponent is a floating-point
number, any other one an integer. Of members with the same name the last one counts.

## Shape of the readers

Values nest, so readers take fuel. Every value and every comma consumes at least one character,
so fuel of twice the length of the text is never used up.

A reader that starts an array or an object calls the readers of what is in it, so how deep these can
be nested is bounded by the machine. The room that is left for it is counted apart from the fuel: a
bracket for which there is none lets reading fail, whatever comes behind the bracket.
-/

namespace SearchQuery.JsonText

open Number Text Text.Scan

/-- Whether `c` may stand between the parts of a value. -/
def isGap (c : Char) : Bool :=
  c == ' ' || c == '\t' || c == '\n' || c == '\r'

/-- Skip blanks. -/
def skipGap : Scan Unit :=
  skipWhile isGap

/-! ## Texts -/

/-- The character of an escape of one letter. -/
def shortEscape? : Char → Option Char
  | '"' => some '"'
  | '\\' => some '\\'
  | '/' => some '/'
  | 'b' => some '\x08'
  | 'f' => some '\x0c'
  | 'n' => some '\n'
  | 'r' => some '\r'
  | 't' => some '\t'
  | _ => none

/-- Whether a number is the first half of a character that is written in two halves. -/
def isHighHalf (n : Nat) : Bool :=
  decide (0xd800 ≤ n) && decide (n ≤ 0xdbff)

/-- Whether a number is the second half of a character that is written in two halves. -/
def isLowHalf (n : Nat) : Bool :=
  decide (0xdc00 ≤ n) && decide (n ≤ 0xdfff)

/-- The piece of a numeric escape whose first number is `n`. Two halves make one character. -/
def joinHalves (n : Nat) : Scan Piece := do
  let here ← get
  if isHighHalf n then
    if ← skip? ['\\', 'u'] then
      let m ← hexNumber 4
      if isLowHalf m then return .ofNat (0x10000 + (n - 0xd800) * 0x400 + (m - 0xdc00))
      -- What is no second half stands for itself, and is read again.
      set here
  return .ofNat n

/-- The piece that an escape stands for, after its backslash. -/
def escape : Scan Piece := do
  match ← get with
  | [] => malformed
  | c :: cs =>
    set cs
    if c == 'u' then joinHalves (← hexNumber 4) else return .char (← orMalformed (shortEscape? c))

/-- Read a text up to its closing quote. -/
def textBody : Nat → Scan (List Piece)
  | 0 => malformed
  | n + 1 => do
    match ← get with
    | [] => malformed
    | c :: cs =>
      set cs
      if c == '"' then return []
      else if c == '\\' then
        let p ← escape
        return p :: (← textBody n)
      -- Control characters have to be escaped.
      else if c.toNat < 32 then malformed
      else return .char c :: (← textBody n)

/-- Read a text. -/
def quotedText : Scan (List Piece) := do
  skip ['"']
  textBody ((← get).length + 1)

/-! ## Numbers -/

/-- Read a number. A plus sign is no part of it. -/
def number : Scan Datum := do
  let negative ← skip? ['-']
  if ← skip? "Infinity".toList then return .float (.infinity negative)
  let (whole, rest) ← orMalformed (Numeral.whole? Numeral.digits? (← get))
  let (f, rest) := Numeral.fraction Numeral.digits? rest
  let (e, rest) := Numeral.exponent Numeral.digits? rest
  set rest
  Numeral.value .int .float (if negative then ['-'] else []) whole (f ++ e)

/-! ## Values -/

/-- The words that stand for values. -/
def words : List (List Char × Datum) := [
  ("null".toList, .null), ("true".toList, .bool true), ("false".toList, .bool false),
  ("NaN".toList, .float (.nan 1))]

/-- Read a word that stands for a value, or else a number. -/
def wordOrNumber : Scan Datum := do
  let cs ← get
  match words.find? fun w => w.1.isPrefixOf cs with
  | some (word, v) =>
    skip word
    return v
  | none => number

/-- The room that is left inside of an array or an object. -/
def inner : Nat → Scan Nat
  | 0 => throw .tooDeep
  | room + 1 => pure room

mutual

/-- Read a value of any kind. -/
def value : Nat → Nat → Scan Datum
  | 0, _ => malformed
  | n + 1, room => do
    match (← get).head? with
    | some '"' => return .text (← quotedText)
    | some '[' => do
      -- An array or object is read in a call of its own, which has to fit.
      let room ← inner room
      skip ['[']
      skipGap
      if ← skip? [']'] then return .list []
      return .list (← elements n room)
    | some '\x7b' => do
      let room ← inner room
      skip ['\x7b']
      skipGap
      if ← skip? ['\x7d'] then return .dict []
      return .dictOf (← members n room)
    | _ => wordOrNumber

/-- Read the elements of an array up to its closing bracket. -/
def elements : Nat → Nat → Scan (List Datum)
  | 0, _ => malformed
  | n + 1, room => do
    let v ← value n room
    skipGap
    if ← skip? [','] then
      skipGap
      return v :: (← elements n room)
    else
      skip [']']
      return [v]

/-- Read the members of an object up to its closing brace. -/
def members : Nat → Nat → Scan (List (List Piece × Datum))
  | 0, _ => malformed
  | n + 1, room => do
    let name ← quotedText
    skipGap
    skip [':']
    skipGap
    let v ← value n room
    skipGap
    -- A comma is followed by another member: there is no comma at the end.
    if ← skip? [','] then
      skipGap
      return (name, v) :: (← members n room)
    else
      skip ['\x7d']
      return [(name, v)]

end

/-- A text that holds one value, with blanks around it. -/
def document (fuel room : Nat) : Scan Datum := do
  skipGap
  let v ← value fuel room
  skipGap
  if (← get).isEmpty then return v else malformed

/-- Read the value that a text holds. -/
def read (m : Machine) (s : String) : Except Defect Datum :=
  onText (document (2 * s.length + 2) m.frames) s.toList

end SearchQuery.JsonText
