/-!
# Machines

What a program can do is bounded by the machine that it runs on. Calls can be nested only so deep, which
matters where a value or a text is taken apart by functions that call themselves, and a number can have
only so many digits, which matters where it is computed from a short notation. A machine also knows
characters by name.
-/

namespace SearchQuery

/-- The bounds of a machine. `frames` is how many calls can still be nested where an operation starts,
`digits` the number of digits of the longest integer that there is memory for, and `character?` the
character of a name. -/
structure Machine where
  frames : Nat := 900
  digits : Nat := 1000000000000
  character? : String → Option Char := fun _ => none
  deriving Inhabited

end SearchQuery
