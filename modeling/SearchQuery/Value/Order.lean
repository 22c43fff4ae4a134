import SearchQuery.Failure

/-!
# The order of values

Numbers of all kinds are ordered by value, texts and byte strings by their characters, points in
time as they follow one another, lists and tuples by the first members that differ, and sets by
inclusion. Values of different sorts have no order, and neither have most sorts.

## Shape of sorting

The order of a list that holds a NaN, or sets that do not include each other, depends on which
members are compared. `sorted` takes the run at the front that is in order already, turned around
if it descends, and inserts every further member by halving, so members that are equal keep the
order in which they came.
-/

namespace SearchQuery

/-- Whether the first expansion is the smaller one. Of two positive numbers with first digits of
the same weight, the coefficients are compared after they have been given the same exponent. -/
def Expansion.less (x y : Expansion) : Bool :=
  let weight (z : Expansion) : Int := z.exponent + Decimal.digitCount z.coefficient
  let scaled (z : Expansion) : Nat :=
    z.coefficient * tenTo (z.exponent - min x.exponent y.exponent).toNat
  let smaller : Bool :=
    if x.coefficient == 0 || y.coefficient == 0 then decide (x.coefficient < y.coefficient)
    -- Numbers of different magnitude are told apart without being scaled.
    else if weight x != weight y then decide (weight x < weight y)
    else decide (scaled x < scaled y)
  match x.negative, y.negative with
  | true, false => true
  | false, true => false
  | false, false => smaller
  | true, true => !smaller && x != y

namespace Value

/-- Whether a value is a NaN among decimal numbers. -/
def isDecimalNaN : Value → Bool
  | decimal (.nan ..) => true
  | _ => false

/-- Whether a value is a decimal number. -/
def isDecimal : Value → Bool
  | decimal _ => true
  | _ => false

/-- Whether the first of two numbers is the smaller one. No order is defined between a NaN and a
decimal number; a NaN is neither smaller nor greater than any other number. -/
def lessNumber (v w : Value) : Except Failure Bool :=
  match v.expansion?, w.expansion? with
  | some x, some y => .ok (x.less y)
  | x, y =>
    match v.infinity?, w.infinity? with
    | some negative, some other => .ok (negative && !other)
    | some negative, none => if y.isSome then .ok negative else unordered
    | none, some other => if x.isSome then .ok !other else unordered
    | none, none => unordered
where
  /-- The answer where one of the numbers is a NaN. -/
  unordered : Except Failure Bool :=
    if v.isDecimal || w.isDecimal then .error .badDecimal else .ok false

/-- Whether the first of two points in time is the earlier one. One with an offset and one without
have no order. -/
def earlier (offset offset' : Option Int) (a b : Int) : Except Failure Bool :=
  match offset, offset' with
  | some o, some p => .ok (decide (a - o < b - p))
  | none, none => .ok (decide (a < b))
  | _, _ => .error .wrongType

mutual

/-- Whether the first value comes before the second one. -/
def less : Value → Value → Except Failure Bool
  | text s, text t => .ok (decide (s < t))
  | bytes b, bytes c => .ok (decide (b.map (·.toNat) < c.map (·.toNat)))
  | date d, date e => .ok (decide (d.ordinal < e.ordinal))
  | moment m, moment n => earlier m.time.offset n.time.offset m.sinceStart n.sinceStart
  | time t, time u => earlier t.offset u.offset t.sinceMidnight u.sinceMidnight
  | duration d, duration e => .ok (decide (d.microseconds < e.microseconds))
  | list xs, list ys => lessItems xs ys
  | tuple xs, tuple ys => lessItems xs ys
  | set xs, set ys => .ok (decide (xs.length < ys.length) && sameMembers xs ys)
  | v, w => if v.isNumber && w.isNumber then lessNumber v w else .error .wrongType

/-- Whether the first list comes before the second one. -/
def lessItems : List Value → List Value → Except Failure Bool
  | [], ys => .ok !ys.isEmpty
  | _, [] => .ok false
  | x :: xs, y :: ys =>
    match same? x y with
    | some true => lessItems xs ys
    | some false => less x y
    | none => .error .badDecimal

end

/-- How many values continue a run that ends with `v`: each one comes before the one in front of
it, or none does. -/
def runLength (descending : Bool) : Value → List Value → Except Failure Nat
  | _, [] => .ok 0
  | v, w :: ws => do
    if (← less w v) == descending then return 1 + (← runLength descending w ws) else return 0

/-- The place of a value between `low` and `high` among values in order, behind those that are
equal to it. At most `n` members are looked at. -/
def place (v : Value) (vs : List Value) : Nat → Nat → Nat → Except Failure Nat
  | 0, low, _ => .ok low
  | n + 1, low, high =>
    if high ≤ low then .ok low
    else do
      let middle := (low + high) / 2
      if ← less v (vs.getD middle .null) then place v vs n low middle
      else place v vs n (middle + 1) high

/-- Insert a value into values in order. -/
def insertInOrder (vs : List Value) (v : Value) : Except Failure (List Value) := do
  let n ← place v vs (vs.length + 1) 0 vs.length
  return vs.take n ++ v :: vs.drop n

/-- Put values in order. -/
def sorted : List Value → Except Failure (List Value)
  | v :: w :: ws => do
    let descending ← less w v
    let n := 2 + (← runLength descending w ws)
    let vs := v :: w :: ws
    let run := vs.take n
    (vs.drop n).foldlM insertInOrder (if descending then run.reverse else run)
  | vs => .ok vs

end Value

end SearchQuery
