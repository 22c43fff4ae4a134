import SearchQuery.Number.Reading
import SearchQuery.Text.Scan

/-!
# Numerals in documents

Documents write their numbers alike: a sign, digits in front of a point, a fraction and an exponent, of which
only the digits in front of the point have to be there. A numeral with a fraction or an exponent writes a
floating-point number, any other one an integer.

## Shape of the readers

Documents differ in what may stand between digits, so the readers of the parts take the reader of digits.
Each of them splits the characters into a part, as it is written but for the letter of the exponent, and the
rest.
-/

namespace SearchQuery.Number.Numeral

open Text

/-- Plain digits, as many as there are and at least one. -/
def digits? (cs : List Char) : Option (List Char × List Char) :=
  let ds := cs.takeWhile Char.isDigit
  if ds.isEmpty then none else some (ds, cs.drop ds.length)

/-- An optional sign. -/
def sign : List Char → List Char × List Char
  | '+' :: cs => (['+'], cs)
  | '-' :: cs => (['-'], cs)
  | cs => ([], cs)

section

variable (digits? : List Char → Option (List Char × List Char))

/-- The digits in front of the point: `0`, or digits that do not start with `0`. -/
def whole? : List Char → Option (List Char × List Char)
  | '0' :: cs => some (['0'], cs)
  | cs => digits? cs

/-- An optional fraction, with its point. -/
def fraction : List Char → List Char × List Char
  | '.' :: cs =>
    match digits? cs with
    | some (ds, rest) => ('.' :: ds, rest)
    | none => ([], '.' :: cs)
  | cs => ([], cs)

/-- An optional exponent, with its letter. -/
def exponent : List Char → List Char × List Char
  | c :: cs =>
    if c == 'e' || c == 'E' then
      match digits? (sign cs).2 with
      | some (ds, rest) => ('e' :: ((sign cs).1 ++ ds), rest)
      | none => ([], c :: cs)
    else ([], c :: cs)
  | [] => ([], [])

end

/-- What the parts of a numeral write. An integer must not have too many digits. -/
def value {α : Type} (int : Int → α) (float : Binary64 → α) (sign whole tail : List Char) :
    Except Defect α :=
  if tail.isEmpty then
    if maxDigits < whole.length then .error .tooManyDigits
    else
      let n := natOfDigits whole
      .ok (int (if sign == ['-'] then -(n : Int) else n))
  else
    match floatOfPlain? 0 (sign ++ whole ++ tail) with
    | some x => .ok (float x)
    | none => .error .malformed

end SearchQuery.Number.Numeral
