import SearchQuery.Number.Numeral
import SearchQuery.Toml.Part
import SearchQuery.Value.Basic

/-!
# Scalars of a document

Numbers, dates, times of day and moments are read greedily: as long a front part as can belong to
the scalar is consumed. What may follow is not looked at here.

## Shape of the choice

A date is tried before a time of day, and both before a number, since a number is a front part of
either. A date that is followed by a complete time of day is a moment.
-/

namespace SearchQuery.Toml

open Number Text Text.Scan

/-! ## Numbers -/

/-- Digits with single underscores between them, taken from the front; a digit must be first in
what follows an underscore. -/
def digitRun (p : Char → Bool) : List Char → List Char × List Char
  | '_' :: c :: cs =>
    if p c then
      let (ds, rest) := digitRun p cs
      (c :: ds, rest)
    else ([], '_' :: c :: cs)
  | c :: cs =>
    if p c then
      let (ds, rest) := digitRun p cs
      (c :: ds, rest)
    else ([], c :: cs)
  | [] => ([], [])

/-- Digits with single underscores between them, at least one. -/
def digits? (p : Char → Bool) : List Char → Option (List Char × List Char)
  | c :: cs => if p c then some (digitRun p (c :: cs)) else none
  | [] => none

/-- The base that a letter stands for. -/
def base? : Char → Option Nat
  | 'x' => some 16
  | 'o' => some 8
  | 'b' => some 2
  | _ => none

/-- An integer that names its base. -/
def basedInteger? : List Char → Option (Value × List Char)
  | '0' :: letter :: cs => do
    let base ← base? letter
    let isDigit (c : Char) : Bool := (Text.hexValue? c).any fun n => decide (n < base)
    let (ds, rest) ← digits? isDigit cs
    let n := ds.foldl (fun n d => base * n + (Text.hexValue? d).getD 0) 0
    return (.int n, rest)
  | _ => none

/-- A decimal number. -/
def decimal? (cs : List Char) : Option (Except Defect Value × List Char) := do
  let digits? := digits? Char.isDigit
  let (s, rest) := Numeral.sign cs
  let (whole, rest) ← Numeral.whole? digits? rest
  let (f, rest) := Numeral.fraction digits? rest
  let (e, rest) := Numeral.exponent digits? rest
  return (Numeral.value .int .float s whole (f ++ e), rest)

/-- An infinity or not a number, with an optional sign. -/
def specialNumber? (cs : List Char) : Option (Value × List Char) :=
  match Numeral.sign cs with
  | (s, 'i' :: 'n' :: 'f' :: rest) => some (.float (.infinity (s == ['-'])), rest)
  | (_, 'n' :: 'a' :: 'n' :: rest) => some (.float (.nan 0), rest)
  | _ => none

/-! ## Dates and times -/

/-- Exactly `n` digits that write a number from `low` to `high`. -/
def part? (n low high : Nat) (cs : List Char) : Option (Nat × List Char) := do
  let ds := cs.take n
  let m := natOfDigits ds
  if ds.length == n && ds.all Char.isDigit && decide (low ≤ m) && decide (m ≤ high) then
    some (m, cs.drop n)
  else none

/-- One given character. -/
def char? (c : Char) : List Char → Option (List Char)
  | d :: cs => if c == d then some cs else none
  | [] => none

/-- Year, month and day. There need not be such a day. -/
def dateParts? (cs : List Char) : Option (Nat × Nat × Nat × List Char) := do
  let (year, cs) ← part? 4 0 9999 cs
  let (month, cs) ← part? 2 1 12 (← char? '-' cs)
  let (day, cs) ← part? 2 1 31 (← char? '-' cs)
  return (year, month, day, cs)

/-- An optional fraction of a second, in microseconds; further digits are dropped. -/
def microseconds (cs : List Char) : Nat × List Char :=
  match cs with
  | '.' :: rest =>
    let ds := rest.takeWhile Char.isDigit
    if ds.isEmpty then (0, cs)
    else
      let six := ds.take 6
      (natOfDigits six * tenTo (6 - six.length), rest.drop ds.length)
  | _ => (0, cs)

/-- A time of day without an offset. -/
def clock? (cs : List Char) : Option (TimeOfDay × List Char) := do
  let (hour, cs) ← part? 2 0 23 cs
  let (minute, cs) ← part? 2 0 59 (← char? ':' cs)
  let (second, cs) ← part? 2 0 59 (← char? ':' cs)
  let (microsecond, cs) := microseconds cs
  return ({ hour, minute, second, microsecond }, cs)

/-- An offset from universal time in microseconds. -/
def offset? : List Char → Option (Int × List Char)
  | c :: cs =>
    if c == 'Z' || c == 'z' then some (0, cs)
    else if c == '+' || c == '-' then do
      let (hours, cs) ← part? 2 0 23 cs
      let (minutes, cs) ← part? 2 0 59 (← char? ':' cs)
      let o : Int := (hours * 60 + minutes : Nat) * 60000000
      return (if c == '-' then -o else o, cs)
    else none
  | [] => none

/-- The time of day behind a date, with an optional offset. -/
def timeAfterDate? : List Char → Option (TimeOfDay × List Char)
  | c :: cs =>
    if c == 'T' || c == 't' || c == ' ' then do
      let (t, rest) ← clock? cs
      match offset? rest with
      | some (o, rest) => return ({ t with offset := some o }, rest)
      | none => return (t, rest)
    else none
  | [] => none

/-- A date or a moment. Fails if there is no such day. -/
def dateOrMoment? (cs : List Char) : Option (Except Defect Value × List Char) := do
  let (year, month, day, rest) ← dateParts? cs
  let found (f : Date → Value) : Except Defect Value :=
    match Date.of? year month day with
    | some d => .ok (f d)
    | none => .error .malformed
  match timeAfterDate? rest with
  | some (t, rest) => return (found fun d => .moment ⟨d, t⟩, rest)
  | none => return (found .date, rest)

/-! ## Scalars -/

/-- A scalar that is neither a text nor a truth value. -/
def scalar? (cs : List Char) : Option (Except Defect Value × List Char) :=
  dateOrMoment? cs
    <|> (clock? cs).map (fun p => (.ok (.time p.1), p.2))
    <|> (basedInteger? cs).map (fun p => (.ok p.1, p.2))
    <|> decimal? cs
    <|> (specialNumber? cs).map (fun p => (.ok p.1, p.2))

/-- Read such a scalar. -/
def scalar : Scan Value := do
  match scalar? (← get) with
  | none => malformed
  | some (.error e, _) => throw e
  | some (.ok v, rest) =>
    set rest
    return v

end SearchQuery.Toml
