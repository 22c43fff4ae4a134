import SearchQuery.Entries
import SearchQuery.Value.Basic

/-!
# Data

What can be said in JSON is less than what a program can have for a value, but for one thing: a numeric
escape may name half a character, and no character need be made of it with another half. So a text of JSON is
a list of pieces.
-/

namespace SearchQuery

/-- A piece of a text: a character, or half of a character that stands alone. -/
inductive Piece where
  | char (c : Char)
  | half (n : Nat)
  deriving DecidableEq, Inhabited

namespace Piece

/-- The piece that a number stands for. -/
def ofNat (n : Nat) : Piece :=
  if n.isValidChar then .char (Char.ofNat n) else .half n

/-- The pieces of a text that is made of characters. -/
def ofText (s : String) : List Piece :=
  s.toList.map .char

/-- A piece as it is shown: half a character is shown as the replacement character. -/
def shown : Piece → Char
  | .char c => c
  | .half _ => '\ufffd'

end Piece

/-- What JSON can say. -/
inductive Datum where
  | null
  | bool (b : Bool)
  | int (n : Int)
  | float (x : Binary64)
  | text (pieces : List Piece)
  | list (items : List Datum)
  | dict (entries : List (List Piece × Datum))
  deriving Inhabited

namespace Datum

/-- The mapping of the given members, of which the last one counts where names are the same. -/
def dictOf (members : List (List Piece × Datum)) : Datum :=
  .dict (members.foldl (fun entries e => putEntry entries e.1 e.2) [])

mutual

/-- The value that a program makes of a datum. Its texts have whole characters only, so half a character is
the replacement character in them. -/
def toValue : Datum → Value
  | .null => .null
  | .bool b => .bool b
  | .int n => .int n
  | .float x => .float x
  | .text pieces => .text (String.ofList (pieces.map Piece.shown))
  | .list items => .list (toValues items)
  | .dict entries => .dictOf (toEntries entries)

/-- The values that a program makes of data. -/
def toValues : List Datum → List Value
  | [] => []
  | d :: ds => toValue d :: toValues ds

/-- The entries that a program makes of members. -/
def toEntries : List (List Piece × Datum) → List (Value × Value)
  | [] => []
  | e :: es => (.text (String.ofList (e.1.map Piece.shown)), toValue e.2) :: toEntries es

end

end Datum

end SearchQuery
