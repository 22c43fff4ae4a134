/-!
# Powers

Powers of two scale the significands of floating-point numbers, powers of ten place the point of a
decimal, and powers of five lead from the one to the other.
-/

namespace SearchQuery

/-- A power of two. -/
def twoTo (n : Nat) : Nat :=
  Nat.pow 2 n

/-- A power of five. -/
def fiveTo (n : Nat) : Nat :=
  Nat.pow 5 n

/-- A power of ten. -/
def tenTo (n : Nat) : Nat :=
  Nat.pow 10 n

/-- The greatest number of digits that an integer is read from or written with. -/
def maxDigits : Nat := 4300

end SearchQuery
