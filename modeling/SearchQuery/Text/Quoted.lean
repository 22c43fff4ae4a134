import SearchQuery.Text.Hex
import SearchQuery.Text.Printable

/-!
# Quoted text

Messages show a text between quotes: single ones, or double ones when the text holds a single
quote and no double quote. The quote in use and the backslash are escaped, line ends and tabs
have short escapes, and every character that is not printable is named by its code point in two,
four or eight hexadecimal digits.
-/

namespace SearchQuery.Text

/-- The quote put around `cs`. -/
def quoteMark (cs : List Char) : Char :=
  if cs.contains '\x27' && !cs.contains '"' then '"' else '\x27'

/-- One character between quotes `mark`. -/
def quotedChar (mark c : Char) : List Char :=
  if c == mark || c == '\\' then ['\\', c]
  else if c == '\n' then ['\\', 'n']
  else if c == '\r' then ['\\', 'r']
  else if c == '\t' then ['\\', 't']
  else if isPrintable c then [c]
  else
    let n := c.toNat
    if n < 0x100 then '\\' :: 'x' :: hexDigits 2 n
    else if n < 0x10000 then '\\' :: 'u' :: hexDigits 4 n
    else '\\' :: 'U' :: hexDigits 8 n

/-- A text in quotes. -/
def quotedChars (cs : List Char) : List Char :=
  let mark := quoteMark cs
  mark :: cs.flatMap (quotedChar mark) ++ [mark]

/-- A text in quotes. -/
def quoted (s : String) : String :=
  String.ofList (quotedChars s.toList)

/-- One byte between quotes `mark`: printable plain text as itself, any other byte escaped. -/
def quotedByte (mark : Char) (b : UInt8) : List Char :=
  let n := b.toNat
  let c := Char.ofNat n
  if c == mark || c == '\\' then ['\\', c]
  else if c == '\n' then ['\\', 'n']
  else if c == '\r' then ['\\', 'r']
  else if c == '\t' then ['\\', 't']
  else if 32 ≤ n ∧ n < 127 then [c]
  else '\\' :: 'x' :: hexDigits 2 n

/-- A byte string in quotes, marked by a `b` in front. -/
def quotedBytes (bs : List UInt8) : String :=
  let mark := quoteMark (bs.map fun b => Char.ofNat b.toNat)
  String.ofList ('b' :: mark :: bs.flatMap (quotedByte mark) ++ [mark])

end SearchQuery.Text
