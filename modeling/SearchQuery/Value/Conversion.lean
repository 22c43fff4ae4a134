import SearchQuery.Failure
import SearchQuery.Machine
import SearchQuery.Number.Reading

/-!
# Conversions

A value is converted to a number or to a text by reading it, truncating it or writing it exactly.
A conversion fails with the cause that its kind of value has: a text that writes no number is a
bad value, an infinity is too large for an integer, and a value that is no number at all is of
the wrong type.

## Shape of a conversion on a machine

Two conversions may also run out of the machine. An integer is computed from the exponent of a decimal
number, so a short number may need more memory than there is (`toIntOn`). A value with members is written
by nested calls, so one that is nested too deep cannot be written (`writtenOn`). The members are written
from the left, so what stops the writing first is the failure (`obstacle?`).
-/

namespace SearchQuery.Value

/-- The characters of a byte string, one for each byte. -/
def byteChars (bs : List UInt8) : List Char :=
  bs.map fun b => Char.ofNat b.toNat

/-- The value of an option, or a failure. -/
def orFail {α : Type} (e : Failure) (o : Option α) : Except Failure α :=
  match o with
  | some a => .ok a
  | none => .error e

/-- Convert to an integer, truncating toward zero. -/
def toInt : Value → Except Failure Int
  | text s => orFail .badValue (Number.readInt? s)
  | bytes bs => orFail .badValue (Number.intOfPlain? (byteChars bs))
  | bool b => .ok (if b then 1 else 0)
  | int n => .ok n
  | float (.nan _) => .error .badValue
  | float x => orFail .tooLarge x.truncate?
  | decimal (.nan ..) => .error .badValue
  | decimal d => orFail .tooLarge d.truncate?
  | _ => .error .wrongType

/-- Convert to the nearest floating-point number. -/
def toFloat : Value → Except Failure Binary64
  | text s => orFail .badValue (Number.readFloat? 0 s)
  | bytes bs => orFail .badValue (Number.floatOfPlain? 0 (byteChars bs))
  | bool b => .ok (.ofInt (if b then 1 else 0))
  | int n =>
    match Binary64.ofInt n with
    | .infinity _ => .error .tooLarge
    | x => .ok x
  | float x => .ok x
  | decimal (.nan _ signalling _ _) => if signalling then .error .badValue else .ok (.nan 0)
  | decimal (.infinity negative) => .ok (.infinity negative)
  | decimal (.finite negative c e) => .ok (.ofScientific negative c e)
  | _ => .error .wrongType

/-- A digit given as a value. -/
def digit? : Value → Option Nat
  | int n => if 0 ≤ n ∧ n ≤ 9 then some n.toNat else none
  | bool b => some (if b then 1 else 0)
  | _ => none

/-- The sign of a decimal number given as a value: 1 is negative. -/
def negative? : Value → Option Bool
  | int n => if n == 0 then some false else if n == 1 then some true else none
  | bool b => some b
  | _ => none

/-- A decimal number given by its sign, its digits and its exponent. The exponent may instead say
that the number is infinite or not a number. -/
def decimalOfParts (sign digits exponent : Value) : Except Failure Decimal := do
  let negative ← orFail .badValue (negative? sign)
  let special ← match exponent with
    | text s => if s == "F" || s == "n" || s == "N" then pure (some s) else throw .badValue
    -- The exponent itself is read last, when sign and digits are known to be right.
    | int _ | bool _ => pure none
    | _ => throw .badValue
  let members ← match digits with
    | list items | tuple items => pure items
    | _ => throw .badValue
  let ds ← orFail .badValue (members.mapM digit?)
  let coefficient := ds.foldl (fun n d => 10 * n + d) 0
  match special with
  | some s =>
    if s == "F" then return .infinity negative
    else return .nan negative (s == "N") coefficient 0
  | none => orFail .badDecimal (Decimal.ofParts? negative coefficient (← toInt exponent))

/-- Convert to a decimal number of exactly the same value. -/
def toDecimal : Value → Except Failure Decimal
  | text s => orFail .badDecimal (Number.readDecimal? 0 s)
  | bool b => .ok (.finite false (if b then 1 else 0) 0)
  | int n => .ok (.finite (decide (n < 0)) n.natAbs 0)
  | float x => .ok (.ofBinary64 x)
  | decimal d => .ok d
  | list [a, b, c] | tuple [a, b, c] => decimalOfParts a b c
  | list _ | tuple _ => .error .badValue
  | _ => .error .wrongType

/-- The text of a value, as far as it can be written. -/
def written (v : Value) : Except Failure String :=
  orFail .badValue v.display?

/-! ## Conversions on a machine -/

/-- The number of digits of the integer that is computed from a decimal number. A number without a
positive exponent is at hand with all its digits. -/
def computedDigits : Value → Nat
  | decimal (.finite _ c e) => if c == 0 || e ≤ 0 then 0 else Decimal.digitCount c + e.toNat
  | _ => 0

/-- Convert to an integer, if there is memory for it. -/
def toIntOn (m : Machine) (v : Value) : Except Failure Int :=
  if m.digits < v.computedDigits then .error .outOfMemory else v.toInt

/-- How many calls are nested to write a moment or a time with such an offset. -/
def offsetFrames : Option Int → Nat
  | none => 1
  | some offset => if offset == 0 then 2 else 3

/-- How many calls are nested to write a value without members. -/
def leafFrames : Value → Nat
  | ignored | pattern _ => 2
  | moment m => offsetFrames m.time.offset
  | time t => offsetFrames t.offset
  | _ => 1

mutual

/-- What stops the writing of a value first, where so many calls can still be nested: a member that is
nested too deep, or an integer that is too long. -/
def obstacle? (frames : Nat) : Value → Option Failure
  | int n =>
    if frames < 1 then some .endlessRecursion else if isLong n then some .badValue else none
  | range start stop step =>
    if frames < 2 then some .endlessRecursion
    else if isLong start || isLong stop || isLong step then some .badValue else none
  | list items | tuple items =>
    if frames < 1 then some .endlessRecursion else firstObstacle? (frames - 1) items
  -- The members of a set are written as those of a list, in a call of its own.
  | set items =>
    if frames < 1 then some .endlessRecursion
    else if items.isEmpty then none
    else if frames < 2 then some .endlessRecursion else firstObstacle? (frames - 2) items
  | dict entries =>
    if frames < 1 then some .endlessRecursion else firstEntryObstacle? (frames - 1) entries
  -- It takes three calls until the parameters of a fragment are written.
  | fragment f => if frames < 4 then some .endlessRecursion else paramsObstacle? (frames - 3) f
  | v => if frames < v.leafFrames then some .endlessRecursion else none

/-- What stops the writing of the parameters of a fragment first. -/
def paramsObstacle? (frames : Nat) : Fragment Value → Option Failure
  | ⟨_, params, _⟩ => firstObstacle? (frames - 1) params

/-- What stops the writing of several values first. -/
def firstObstacle? (frames : Nat) : List Value → Option Failure
  | [] => none
  | v :: vs => (obstacle? frames v).or (firstObstacle? frames vs)

/-- What stops the writing of the entries of a mapping first. -/
def firstEntryObstacle? (frames : Nat) : List (Value × Value) → Option Failure
  | [] => none
  | e :: es => (entryObstacle? frames e).or (firstEntryObstacle? frames es)

/-- What stops the writing of a key and its value first. -/
def entryObstacle? (frames : Nat) : Value × Value → Option Failure
  | (k, v) => (obstacle? frames k).or (obstacle? frames v)

end

/-- The text of a value, as far as it can be written on a machine. A text is itself, and a fragment is
its SQL. -/
def writtenOn (m : Machine) : Value → Except Failure String
  | text s => .ok s
  | fragment f => .ok f.sql
  | v =>
    match v.obstacle? m.frames with
    | some e => .error e
    | none => .ok v.display

/-- A number and one. -/
def increment : Value → Except Failure Value
  | bool b => .ok (.int (if b then 2 else 1))
  | int n => .ok (.int (n + 1))
  | float x => .ok (.float (x.addInt 1))
  | decimal d =>
    match d.addInt 1 with
    | .ok d => .ok (.decimal d)
    | .error .signalling => .error .badDecimal
    | .error .overflow => .error .sumTooLarge
  | _ => .error .wrongType

end SearchQuery.Value
