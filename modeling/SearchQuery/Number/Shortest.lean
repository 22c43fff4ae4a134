import SearchQuery.Number.Binary64

/-!
# The shortest decimal that reads back

A floating-point number is written with the fewest digits that are read back as the same number;
of several such decimals the one nearest to the number is taken.

## Shape of the search

The reals that round to `m * 2 ^ e` form an interval around it, its ends included exactly when
`m` is even. If a point of a decimal grid lies in the interval, then so does one of the two
neighbours of the number on that grid. So for one, two, … seventeen digits it is enough to look
at those two neighbours (`gridHit?`), in exact arithmetic on natural numbers, and seventeen
digits always suffice.
-/

namespace SearchQuery.Binary64

/-- A positive decimal: its digits as one number, and how many of them precede the point. -/
structure Digits where
  coefficient : Nat
  count : Nat
  point : Int
  deriving DecidableEq, Inhabited

/-- The rounding interval of a positive number over a common denominator: lower end, the number
itself, upper end, the denominator, and whether the ends belong to the interval. -/
structure RoundingInterval where
  lower : Nat
  middle : Nat
  upper : Nat
  denominator : Nat
  closed : Bool

namespace RoundingInterval

/-- The reals that round to `m * 2 ^ e`. Below a power of two the numbers lie twice as close. -/
def ofParts (m : Nat) (e : Int) : RoundingInterval :=
  let below := if m == twoTo 52 && decide (minExponent < e) then 1 else 2
  let scale : Nat := if 0 ≤ e then 1 <<< e.toNat else 1
  { lower := (4 * m - below) * scale
    middle := 4 * m * scale
    upper := (4 * m + 2) * scale
    denominator := if 0 ≤ e then 4 else 4 <<< (-e).toNat
    closed := m % 2 == 0 }

/-- Whether the fraction `num / den` lies in the interval. -/
def contains (i : RoundingInterval) (num den : Nat) : Bool :=
  let x := num * i.denominator
  if i.closed then decide (i.lower * den ≤ x) && decide (x ≤ i.upper * den)
  else decide (i.lower * den < x) && decide (x < i.upper * den)

/-- The number of digits before the point: the least `k` with `middle / denominator < 10 ^ k`. -/
def pointPosition (i : RoundingInterval) : Int :=
  if i.denominator ≤ i.middle then (Nat.toDigits 10 (i.middle / i.denominator)).length
  else
    match (List.range 330).find? fun j => i.denominator ≤ i.middle * tenTo (j + 1) with
    | some j => -(j : Int)
    | none => -330

/-- The nearer of the two neighbours on the grid of `n` digits that lie in the interval. -/
def gridHit? (i : RoundingInterval) (k : Int) (n : Nat) : Option Nat :=
  let shift : Int := k - n
  let up : Nat := tenTo (-shift).toNat
  let down : Nat := tenTo shift.toNat
  let num := i.middle * up
  let den := i.denominator * down
  let q := num / den
  let fits (c : Nat) : Bool := i.contains (c * down) up
  let rest := num % den
  -- Of two candidates that both fit, the closer one is taken, and an even one if they are equally close.
  let lowerFirst := 2 * rest < den || (2 * rest == den && q % 2 == 0)
  match fits q && q != 0, fits (q + 1) with
  | true, true => some (if lowerFirst then q else q + 1)
  | true, false => some q
  | false, true => some (q + 1)
  | false, false => none

/-- The digits of the shortest decimal in the interval. -/
def shortest (i : RoundingInterval) : Digits :=
  let k := i.pointPosition
  match (List.range 17).findSome? fun n => (i.gridHit? k (n + 1)).map fun c => (c, n + 1) with
  | some (c, n) =>
    if c == tenTo n then ⟨1, 1, k + 1⟩ else ⟨c, n, k⟩
  | none => ⟨0, 1, k⟩

end RoundingInterval

/-- How the text of a number places its point: positional notation is used while the point falls
after `minPoint` and not after `maxPoint`. -/
structure PointStyle where
  minPoint : Int
  maxPoint : Int

/-- Numbers from `0.0001` up to `10 ^ 16` are written positionally. -/
def positional : PointStyle := ⟨-4, 16⟩

/-- The text of digits with the point after `d.point` of them. -/
def Digits.text (style : PointStyle) (d : Digits) : List Char :=
  let ds := Nat.toDigits 10 d.coefficient
  if style.minPoint < d.point ∧ d.point ≤ style.maxPoint then
    if d.point ≤ 0 then '0' :: '.' :: List.replicate (-d.point).toNat '0' ++ ds
    else
      let p := d.point.toNat
      if d.count ≤ p then ds ++ List.replicate (p - d.count) '0' ++ ['.', '0']
      else ds.take p ++ '.' :: ds.drop p
  else
    let x := d.point - 1
    let fraction := if d.count == 1 then [] else '.' :: ds.drop 1
    let xs := Nat.toDigits 10 x.natAbs
    -- An exponent has two digits at least.
    let xs := if xs.length < 2 then '0' :: xs else xs
    ds.take 1 ++ fraction ++ 'e' :: (if x < 0 then '-' else '+') :: xs

/-- The text of a number. -/
def text : Binary64 → String
  | nan _ => "nan"
  | infinity negative => if negative then "-inf" else "inf"
  | finite negative m e =>
    let body :=
      if m == 0 then ['0', '.', '0'] else (RoundingInterval.ofParts m e).shortest.text positional
    String.ofList (if negative then '-' :: body else body)

end SearchQuery.Binary64
