import SearchQuery.Number.Binary64

/-!
# Decimal numbers

A decimal number keeps its coefficient and its exponent of ten as they were written, so `1.10`
and `1.1` are equal and yet have different texts. Infinities and NaNs, quiet or signalling, with
an optional payload, are decimal numbers too.

## Shape of the comparison

Integers, finite decimals and finite floating-point numbers all have an exact decimal expansion.
`Expansion` is its canonical form, without trailing zeros, and two numbers of any of these kinds
are equal exactly when their expansions are.
-/

namespace SearchQuery

/-- A decimal number. -/
inductive Decimal where
  | finite (negative : Bool) (coefficient : Nat) (exponent : Int)
  | infinity (negative : Bool)
  | nan (negative : Bool) (signalling : Bool) (payload : Nat) (label : Nat)
  deriving DecidableEq, Inhabited

/-- An exact decimal number in canonical form: the coefficient does not end in zero, and zero is
`⟨false, 0, 0⟩`. -/
structure Expansion where
  negative : Bool
  coefficient : Nat
  exponent : Int
  deriving DecidableEq

namespace Expansion

/-- Divide by ten while the number ends in zero, at most `fuel` times; also how often. -/
def stripZeros : Nat → Nat → Nat × Nat
  | 0, n => (n, 0)
  | fuel + 1, n =>
    if n % 10 == 0 then
      let (m, k) := stripZeros fuel (n / 10)
      (m, k + 1)
    else (n, 0)

/-- The canonical form of `coefficient * 10 ^ exponent`. A number has at most as many trailing
decimal zeros as it has binary digits. -/
def ofParts (negative : Bool) (coefficient : Nat) (exponent : Int) : Expansion :=
  if coefficient == 0 then ⟨false, 0, 0⟩
  else
    let (m, k) := stripZeros coefficient.log2 coefficient
    ⟨negative, m, exponent + k⟩

/-- The expansion of an integer. -/
def ofInt (n : Int) : Expansion :=
  ofParts (decide (n < 0)) n.natAbs 0

/-- The expansion of a finite floating-point number: a power of two below one is a power of five
over a power of ten. -/
def ofBinary64? : Binary64 → Option Expansion
  | .finite negative m e =>
    some (if 0 ≤ e then ofParts negative (m <<< e.toNat) 0
      else ofParts negative (m * fiveTo (-e).toNat) e)
  | _ => none

/-- The expansion of a finite decimal number. -/
def ofDecimal? : Decimal → Option Expansion
  | .finite negative c e => some (ofParts negative c e)
  | _ => none

end Expansion

namespace Decimal

/-- The least exponent a number may have. -/
def minExponent : Int := -1999999999999999997

/-- The greatest adjusted exponent a number may have. -/
def maxAdjusted : Int := 999999999999999999

/-- The number of digits of a coefficient. -/
def digitCount (coefficient : Nat) : Nat :=
  (Nat.toDigits 10 coefficient).length

/-- A finite number, if its exponent is in range. -/
def ofParts? (negative : Bool) (coefficient : Nat) (exponent : Int) : Option Decimal :=
  if maxAdjusted < exponent + digitCount coefficient - 1 ∨ exponent < minExponent then none
  else some (finite negative coefficient exponent)

/-- A floating-point number as the decimal number of the same value. A NaN is made anew. -/
def ofBinary64 : Binary64 → Decimal
  | .nan _ => nan false false 0 0
  | .infinity negative => infinity negative
  | .finite negative m e =>
    if m == 0 then finite negative 0 0
    else if 0 ≤ e then finite negative (m <<< e.toNat) 0
    else
      let halvings := min (-e).toNat (trailingZeros m)
      let shift := (-e).toNat - halvings
      finite negative ((m >>> halvings) * fiveTo shift) (-(shift : Int))
where
  /-- How often two divides a positive number. -/
  trailingZeros (m : Nat) : Nat :=
    ((List.range 64).find? fun k => m.testBit k).getD 0

/-- The text of a number. The point is written inside or in front of the digits while at most
five zeros follow it; otherwise one digit precedes the point and an exponent follows. -/
def text : Decimal → String
  | infinity negative => if negative then "-Infinity" else "Infinity"
  | nan negative signalling payload _ =>
    (if negative then "-" else "") ++ (if signalling then "sNaN" else "NaN") ++
      (if payload == 0 then "" else toString payload)
  | finite negative c e =>
    let ds := Nat.toDigits 10 c
    let leading : Int := e + ds.length
    -- Where the point would be too far away, it is written behind the first digit, with an exponent.
    let point : Int := if e ≤ 0 ∧ -6 < leading then leading else 1
    let body :=
      if point ≤ 0 then '0' :: '.' :: List.replicate (-point).toNat '0' ++ ds
      else if ds.length ≤ point.toNat then ds ++ List.replicate (point.toNat - ds.length) '0'
      else ds.take point.toNat ++ '.' :: ds.drop point.toNat
    let x := leading - point
    let tail :=
      if x == 0 then [] else 'E' :: (if x < 0 then '-' else '+') :: Nat.toDigits 10 x.natAbs
    String.ofList ((if negative then ['-'] else []) ++ body ++ tail)

/-! ## Sums -/

/-- The number of digits that sums are rounded to. -/
def precision : Nat := 28

/-- The greatest exponent that the first digit of a sum may have. -/
def maxSum : Int := 999999

/-- Why a sum has no value. -/
inductive SumDefect where
  | signalling
  | overflow
  deriving DecidableEq, Inhabited

/-- A finite number rounded to the precision of sums; halves go to the even neighbour. -/
def rounded (negative : Bool) (coefficient : Nat) (exponent : Int) : Decimal :=
  let cut := digitCount coefficient - precision
  if cut == 0 then finite negative coefficient exponent
  else
    let q := Binary64.roundDiv coefficient (tenTo cut)
    if q == tenTo precision then finite negative (tenTo (precision - 1)) (exponent + cut + 1)
    else finite negative q (exponent + cut)

/-- A sum that is not too large. -/
def bounded : Decimal → Except SumDefect Decimal
  | finite negative c e =>
    if c != 0 && decide (maxSum < e + digitCount c - 1) then .error .overflow
    else .ok (finite negative c e)
  | d => .ok d

/-- A signed number `n * 10 ^ e`. -/
structure Scaled where
  number : Int
  exponent : Int

/-- The sum of two numbers, the first with the greater exponent. A second number that lies so far
below the digits of the first that only its sign can show in the rounded sum is replaced by one
that is as good and not so far away. -/
def Scaled.add (big small : Scaled) : Scaled :=
  if big.number == 0 then small
  else
    let digits := digitCount big.number.natAbs
    let limit : Int := big.exponent - 1 - (if precision < digits then 0 else precision + 1 - digits)
    let near : Scaled :=
      if small.exponent + digitCount small.number.natAbs - 1 < limit then ⟨small.number.sign, limit⟩
      else small
    let shift := (big.exponent - near.exponent).toNat
    ⟨big.number * (tenTo shift : Nat) + near.number, near.exponent⟩

/-- The sum of a number and an integer. A NaN is made anew, with at most the last digits of its
payload that fit the precision; a signalling NaN has no sum. -/
def addInt (d : Decimal) (k : Int) : Except SumDefect Decimal :=
  match d with
  | nan _ true _ _ => .error .signalling
  | nan negative false payload _ => .ok (nan negative false (payload % tenTo precision) 0)
  | infinity negative => .ok (infinity negative)
  | finite negative c e =>
    let own : Scaled := ⟨if negative then -(c : Int) else c, e⟩
    let sum := if 0 < e then own.add ⟨k, 0⟩ else Scaled.add ⟨k, 0⟩ own
    bounded (rounded (decide (sum.number < 0)) sum.number.natAbs sum.exponent)

/-- Whether the number is zero. -/
def isZero : Decimal → Bool
  | finite _ c _ => c == 0
  | _ => false

/-- The integer part of a finite number, toward zero. -/
def truncate? : Decimal → Option Int
  | finite negative c e =>
    let n : Nat :=
      if c == 0 || decide (e + digitCount c ≤ 0) then 0
      else if 0 ≤ e then c * tenTo e.toNat
      else c / tenTo (-e).toNat
    some (if negative then -(n : Int) else n)
  | _ => none

end Decimal

end SearchQuery
