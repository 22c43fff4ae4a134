import SearchQuery.Number.Decimal
import SearchQuery.Text.Blank
import SearchQuery.Text.Digit

/-!
# Numbers in text

Integers, floating-point numbers and decimal numbers are read from text with white space around
them and with the decimal digits of any script. Integers and floating-point numbers may have
single underscores between digits; decimal numbers may have underscores anywhere.

## Shape of the readers

`plainDigits` first writes every digit and every white space of another script in plain text and
refuses any other character that is not plain. The readers then work on plain characters, each
one a split into sign, digits and rest.
-/

namespace SearchQuery.Number

open SearchQuery.Text

/-- Replace digits and white space of all scripts by plain ones. -/
def plainDigits (cs : List Char) : Option (List Char) :=
  cs.mapM fun c =>
    if c.toNat < 127 then some c
    else if isSpace c then some ' '
    else (digitValue? c).map fun d => Char.ofNat (48 + d)

/-- White space of plain text; the information separators are not part of it. -/
def isPlainSpace (c : Char) : Bool :=
  c == ' ' || (decide (9 ≤ c.toNat) && decide (c.toNat ≤ 13))

/-- Remove plain white space at both ends. -/
def trimPlain (cs : List Char) : List Char :=
  dropEndWhile isPlainSpace (cs.dropWhile isPlainSpace)

/-- Split an optional sign off; true is minus. -/
def splitSign : List Char → Bool × List Char
  | '-' :: cs => (true, cs)
  | '+' :: cs => (false, cs)
  | cs => (false, cs)

/-- The number written by plain digits. -/
def natOfDigits (ds : List Char) : Nat :=
  ds.foldl (fun n d => 10 * n + (d.toNat - 48)) 0

/-- Remove underscores, each of which must stand between two digits. -/
def dropUnderscores : Option Char → List Char → Option (List Char)
  | before, [] => if before == some '_' then none else some []
  | before, c :: cs =>
    if c == '_' then
      if before.any Char.isDigit then dropUnderscores (some '_') cs else none
    else if before == some '_' && !c.isDigit then none
    else (dropUnderscores (some c) cs).map (c :: ·)

/-- The integer that plain text writes. -/
def intOfPlain? (cs : List Char) : Option Int :=
  let (negative, ds) := splitSign (trimPlain cs)
  match dropUnderscores none ds with
  | some ds =>
    if !ds.isEmpty && ds.all Char.isDigit && decide (ds.length ≤ maxDigits) then
      some (if negative then -(natOfDigits ds : Int) else natOfDigits ds)
    else none
  | none => none

/-- The integer that a text writes. -/
def readInt? (s : String) : Option Int :=
  (plainDigits s.toList).bind intOfPlain?

/-- The exponent part of a number: nothing, or a letter `e`, a sign and digits. -/
def exponentOf? : List Char → Option Int
  | [] => some 0
  | c :: cs =>
    if c == 'e' || c == 'E' then
      let (negative, ds) := splitSign cs
      if !ds.isEmpty && ds.all Char.isDigit then
        some (if negative then -(natOfDigits ds : Int) else natOfDigits ds)
      else none
    else none

/-- The coefficient and the exponent of an unsigned number: digits with or without a point, at
least one digit, then an exponent part. -/
def scientificOf? (cs : List Char) : Option (Nat × Int) :=
  let whole := cs.takeWhile Char.isDigit
  let rest := cs.dropWhile Char.isDigit
  let (fraction, rest) :=
    match rest with
    | '.' :: r => (r.takeWhile Char.isDigit, r.dropWhile Char.isDigit)
    | r => ([], r)
  if whole.isEmpty && fraction.isEmpty then none
  else (exponentOf? rest).map fun x =>
    (natOfDigits (whole ++ fraction), x - fraction.length)

/-- Plain letters in lower case. -/
def plainLower (cs : List Char) : String :=
  String.ofList (cs.map Char.toLower)

/-- The floating-point number that plain text writes. A NaN gets the given label. -/
def floatOfPlain? (label : Nat) (cs : List Char) : Option Binary64 :=
  match dropUnderscores none (trimPlain cs) with
  | none => none
  | some cs =>
    let (negative, cs) := splitSign cs
    let word := plainLower cs
    if word == "inf" || word == "infinity" then some (.infinity negative)
    else if word == "nan" then some (.nan label)
    else (scientificOf? cs).map fun (c, e) => Binary64.ofScientific negative c e

/-- The floating-point number that a text writes. -/
def readFloat? (label : Nat) (s : String) : Option Binary64 :=
  (plainDigits s.toList).bind (floatOfPlain? label)

/-- The payload of a NaN: no digits, or the number they write. -/
def payloadOf? (cs : List Char) : Option Nat :=
  if cs.all Char.isDigit then some (natOfDigits cs) else none

/-- The decimal number that plain text without spaces writes. -/
def decimalOfPlain? (label : Nat) (cs : List Char) : Option Decimal :=
  let (negative, cs) := splitSign cs
  let word := cs.map Char.toLower
  if word == ['i', 'n', 'f'] || String.ofList word == "infinity" then some (.infinity negative)
  else
    match word with
    | 'n' :: 'a' :: 'n' :: ds => (payloadOf? ds).map fun p => .nan negative false p label
    | 's' :: 'n' :: 'a' :: 'n' :: ds => (payloadOf? ds).map fun p => .nan negative true p label
    | _ =>
      match scientificOf? cs with
      | some (c, e) => Decimal.ofParts? negative c e
      | none => none

/-- The decimal number that a text writes. -/
def readDecimal? (label : Nat) (s : String) : Option Decimal :=
  (plainDigits ((trimChars s.toList).filter (· != '_'))).bind (decimalOfPlain? label)

end SearchQuery.Number
