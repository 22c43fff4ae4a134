import SearchQuery.Number.Power

/-!
# Floating-point numbers

A floating-point number is a sign, a significand below `2^53` and an exponent of two, or an
infinity, or not a number. All arithmetic is exact arithmetic on natural numbers followed by one
rounding, to the nearest number and to the even significand of two that are equally near.

## Shape of the representation

`finite` holds one representation of each number: the significand is at least `2^52`, or the
exponent is the least one, `-1074`. Zero keeps its sign. A NaN is equal to itself only: its
label tells one NaN that is handed around from another one. One that has just been made has the
label 0, until whoever keeps it gives it a label of its own.
-/

namespace SearchQuery

/-- A floating-point number of 64 bits. -/
inductive Binary64 where
  | nan (label : Nat)
  | infinity (negative : Bool)
  | finite (negative : Bool) (significand : Nat) (exponent : Int)
  deriving DecidableEq, Inhabited

namespace Binary64

/-- The least exponent of a finite number. -/
def minExponent : Int := -1074

/-- The greatest exponent of a finite number. -/
def maxExponent : Int := 971

/-- The quotient of `num` by `den` to the nearest integer; halves go to the even one. -/
def roundDiv (num den : Nat) : Nat :=
  let q := num / den
  let r := num % den
  if 2 * r < den then q
  else if den < 2 * r then q + 1
  else if q % 2 == 0 then q else q + 1

/-- The fraction `num / den` divided by `2 ^ e`. -/
def scaleDown (num den : Nat) (e : Int) : Nat × Nat :=
  if 0 ≤ e then (num, den <<< e.toNat) else (num <<< (-e).toNat, den)

/-- The exponent at which the quotient of `num` by `den` has 53 binary digits, or the least one. -/
def exponentFor (num den : Nat) : Int :=
  let e : Int := (num.log2 : Int) - den.log2 - 53
  let (n, d) := scaleDown num den e
  max (if n / d < twoTo 53 then e else e + 1) minExponent

/-- The number nearest to `num / den`, with the given sign. -/
def ofRatio (negative : Bool) (num den : Nat) : Binary64 :=
  if num == 0 then finite negative 0 minExponent
  else
    let e := exponentFor num den
    let (n, d) := scaleDown num den e
    let q := roundDiv n d
    let (m, e) := if q == twoTo 53 then (twoTo 52, e + 1) else (q, e)
    if maxExponent < e then infinity negative else finite negative m e

/-- The number nearest to `coefficient * 10 ^ exponent`. The bounds on the exponent only spare
work: what lies beyond them is too large or too small for any finite number but zero. -/
def ofScientific (negative : Bool) (coefficient : Nat) (exponent : Int) : Binary64 :=
  if coefficient == 0 then finite negative 0 minExponent
  else
    let magnitude : Int := exponent + (coefficient.log2 : Int) * 30103 / 100000
    if 400 < magnitude then infinity negative
    else if magnitude < -400 then finite negative 0 minExponent
    else if 0 ≤ exponent then ofRatio negative (coefficient * tenTo exponent.toNat) 1
    else ofRatio negative coefficient (tenTo (-exponent).toNat)

/-- The number nearest to an integer. -/
def ofInt (n : Int) : Binary64 :=
  ofRatio (decide (n < 0)) n.natAbs 1

/-- A finite number as a fraction of an integer by a natural number. -/
def ratio? : Binary64 → Option (Int × Nat)
  | finite negative m e =>
    let n : Nat := if 0 ≤ e then m <<< e.toNat else m
    some (if negative then -(n : Int) else n, if 0 ≤ e then 1 else 1 <<< (-e).toNat)
  | _ => none

/-- The integer part of a finite number, toward zero. -/
def truncate? (x : Binary64) : Option Int :=
  x.ratio?.map fun r => Int.tdiv r.1 r.2

/-- Whether the number is zero, of either sign. -/
def isZero : Binary64 → Bool
  | finite _ m _ => m == 0
  | _ => false

/-- The sum of a number and an integer. A NaN is made anew. -/
def addInt (x : Binary64) (k : Int) : Binary64 :=
  match x.ratio? with
  | some (n, d) =>
    let s := n + k * d
    if s == 0 then finite (k == 0 && (x == finite true 0 minExponent)) 0 minExponent
    else ofRatio (decide (s < 0)) s.natAbs d
  | none =>
    match x with
    | nan _ => nan 0
    | x => x

end Binary64

end SearchQuery
