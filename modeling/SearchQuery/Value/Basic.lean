import SearchQuery.Calendar.Basic
import SearchQuery.Fragment
import SearchQuery.Number.Decimal
import SearchQuery.Pattern.Basic

/-!
# Values

A search attribute holds whatever its user gives it: a text from a form, a number, a date, a
collection of such values, a fragment of SQL. `Value` is the type of all of these. It is also the
type of option-maps, which are mappings with values in them, and of the parameters of fragments.

## Shape of the type

`ignored` is the value of an attribute that takes no part in a search. It differs from `null`,
which asks for rows without a value. Mappings keep the order in which their keys were first
written, and `model` stands for a model class, known by its name.
-/

namespace SearchQuery

/-- A value of a search attribute, of an option-map or of a parameter. -/
inductive Value where
  | null
  | bool (b : Bool)
  | int (n : Int)
  | float (x : Binary64)
  | decimal (d : Decimal)
  | text (s : String)
  | date (d : Date)
  | moment (m : Moment)
  | time (t : TimeOfDay)
  | duration (d : Duration)
  | bytes (bs : List UInt8)
  | list (items : List Value)
  | tuple (items : List Value)
  | set (items : List Value)
  | range (start stop step : Int)
  | dict (entries : List (Value × Value))
  | fragment (f : Fragment Value)
  | ignored
  | pattern (p : Pattern)
  | model (name : String)
  deriving Inhabited

namespace Value

/-- The text of a value that is a text. -/
def text? : Value → Option String
  | text s => some s
  | _ => none

/-- The entries of a value that is a mapping. -/
def entries? : Value → Option (List (Value × Value))
  | dict entries => some entries
  | _ => none

/-- Whether the value is the marker of an attribute that takes no part in a search. -/
def isIgnored : Value → Bool
  | ignored => true
  | _ => false

/-- Whether the value is a class of models. -/
def isModel : Value → Bool
  | model _ => true
  | _ => false

/-- The number of members of a range. -/
def rangeLength (start stop step : Int) : Nat :=
  if 0 < step then ((stop - start + step - 1) / step).toNat
  else if step < 0 then ((start - stop - step - 1) / -step).toNat
  else 0

/-- The members of a range. -/
def rangeItems (start stop step : Int) : List Value :=
  (List.range (rangeLength start stop step)).map fun (k : Nat) => int (start + step * (k : Int))

/-- The members of a value that can be taken one by one: of a mapping its keys, of a text its
characters, of a byte string its bytes as numbers. -/
def items? : Value → Option (List Value)
  | list items | tuple items | set items => some items
  | range start stop step => some (rangeItems start stop step)
  | dict entries => some (entries.map (·.1))
  | text s => some (s.toList.map fun c => text (String.ofList [c]))
  | bytes bs => some (bs.map fun b => int b.toNat)
  | _ => none

/-- The members of a value that counts as a collection in a condition. -/
def collection? : Value → Option (List Value)
  | list items | tuple items | set items => some items
  | range start stop step => some (rangeItems start stop step)
  | _ => none

/-- Whether a value counts as true: everything does but `null`, false, zero, and what is empty. -/
def truthy : Value → Bool
  | null => false
  | bool b => b
  | int n => n != 0
  | float x => !x.isZero
  | decimal d => !d.isZero
  | text s => !s.isEmpty
  | duration d => d.microseconds != 0
  | bytes bs => !bs.isEmpty
  | list items | tuple items | set items => !items.isEmpty
  | range start stop step => rangeLength start stop step != 0
  | dict entries => !entries.isEmpty
  | fragment f => !f.isEmpty
  | _ => true

/-! ## Equality -/

/-- The exact value of a number of any kind; truth values count as 1 and 0. -/
def expansion? : Value → Option Expansion
  | bool b => some (.ofInt (if b then 1 else 0))
  | int n => some (.ofInt n)
  | float x => Expansion.ofBinary64? x
  | decimal d => Expansion.ofDecimal? d
  | _ => none

/-- An infinity, with its sign. -/
def infinity? : Value → Option Bool
  | float (.infinity negative) => some negative
  | decimal (.infinity negative) => some negative
  | _ => none

/-- Whether a value is a number of any kind. -/
def isNumber : Value → Bool
  | bool _ | int _ | float _ | decimal _ => true
  | _ => false

/-- Whether a value is a signalling NaN. -/
def isSignalling : Value → Bool
  | decimal (.nan _ signalling _ _) => signalling
  | _ => false

/-- Whether two values without members are equal. Numbers of different kinds are compared by
value, and a NaN is equal to itself only. -/
def sameLeaf : Value → Value → Bool
  | null, null => true
  | ignored, ignored => true
  | text s, text t => s == t
  | date d, date e => d == e
  | moment m, moment n => m.same n
  | time t, time u => t.same u
  | duration d, duration e => d == e
  | bytes b, bytes c => b == c
  | pattern p, pattern q => p.source == q.source && p.ignoreCase == q.ignoreCase
  | model m, model n => m == n
  -- A NaN is the same as itself only; labels tell which one it is.
  | float (.nan l), float (.nan m) => l == m
  | decimal (.nan _ _ _ l), decimal (.nan _ _ _ m) => l == m
  | range a b c, range d e f =>
    let n := rangeLength a b c
    n == rangeLength d e f && (n == 0 || (a == d && (n == 1 || c == f)))
  -- Numbers of all kinds are compared by their value.
  | v, w =>
    match v.expansion?, w.expansion? with
    | some x, some y => x == y
    | _, _ => (v.infinity?).isSome && v.infinity? == w.infinity?

/-- Whether two values without members are equal. There is no answer for a signalling NaN and
another number. -/
def sameLeaf? (v w : Value) : Option Bool :=
  let refused := (v.isSignalling && w.isNumber) || (v.isNumber && w.isSignalling)
  if sameLeaf v w then some true else if refused then none else some false

mutual

/-- Whether two values are equal: numbers by value, collections of one kind member by member,
mappings and sets whatever the order of their keys and members. The first members that differ
decide, so there is an answer if they come before a comparison that has none. -/
def same? : Value → Value → Option Bool
  | list xs, list ys => if xs.length == ys.length then sameItems? xs ys else some false
  | tuple xs, tuple ys => sameItems? xs ys
  | set xs, set ys => some (xs.length == ys.length && sameMembers xs ys)
  | dict xs, dict ys => if xs.length == ys.length then sameEntries? xs ys else some false
  | fragment f, fragment g => sameFragment? f g
  | v, w => sameLeaf? v w

/-- Whether two fragments have the same text and equal parameters. -/
def sameFragment? : Fragment Value → Fragment Value → Option Bool
  | ⟨s, ps, _⟩, ⟨t, qs, _⟩ => if s == t then sameItems? ps qs else some false

/-- Whether two lists are equal member by member. -/
def sameItems? : List Value → List Value → Option Bool
  | [], [] => some true
  | x :: xs, y :: ys =>
    match same? x y with
    | some true => sameItems? xs ys
    | answer => answer
  | _, _ => some false

/-- Whether every member of the first list is in the second one. The members of sets can always
be compared. -/
def sameMembers : List Value → List Value → Bool
  | [], _ => true
  | x :: xs, ys => ys.any (fun y => same? x y == some true) && sameMembers xs ys

/-- Whether every entry of the first mapping is in the second one. -/
def sameEntries? : List (Value × Value) → List (Value × Value) → Option Bool
  | [], _ => some true
  | e :: es, ys =>
    match sameEntry? e ys with
    | some true => sameEntries? es ys
    | answer => answer

/-- Whether a mapping has an entry of that key with an equal value. -/
def sameEntry? : Value × Value → List (Value × Value) → Option Bool
  | (k, v), ys =>
    match ys.find? fun e => same? k e.1 == some true with
    | some e => same? v e.2
    | none => some false

end

/-- Whether two keys are equal. Keys can always be compared. -/
def same (v w : Value) : Bool :=
  same? v w == some true

/-- Whether one of the candidates passes a test. There is no answer if the test has none for a
candidate that comes before all that pass. -/
def anyPasses {α : Type} (test : α → Option Bool) : List α → Option Bool
  | [] => some false
  | a :: as =>
    match test a with
    | some false => anyPasses test as
    | answer => answer

/-- Add to `kept` the first of the members that are equal to one another. -/
def distinctBy {α : Type} (same? : α → α → Option Bool) : List α → List α → Option (List α)
  | kept, [] => some kept
  | kept, a :: as =>
    match anyPasses (same? · a) kept with
    | some true => distinctBy same? kept as
    | some false => distinctBy same? (kept ++ [a]) as
    | none => none

/-- Keep the first of the members that are equal to one another. -/
def distinct? (vs : List Value) : Option (List Value) :=
  distinctBy same? [] vs

/-- The first label that may be given out. The label 0 marks a NaN that has just been made, and 1
the one NaN that all texts in JSON share. -/
def firstLabel : Nat := 2

/-- Give a NaN that has just been made a label of its own. -/
def labelled (label : Nat) : Value → Value
  | float (.nan 0) => float (.nan label)
  | decimal (.nan negative signalling payload 0) =>
    decimal (.nan negative signalling payload label)
  | v => v

/-! ## Mappings -/

/-- Write an entry: a key that is already there keeps its place and gets the new value. -/
def insertEntry (entries : List (Value × Value)) (key value : Value) : List (Value × Value) :=
  if entries.any (same key ·.1) then
    entries.map fun e => if same key e.1 then (e.1, value) else e
  else entries ++ [(key, value)]

/-- The given entries, the last one where keys are equal. -/
def mergedEntries (entries : List (Value × Value)) : List (Value × Value) :=
  entries.foldl (fun es e => insertEntry es e.1 e.2) []

/-- The mapping that holds the given entries. -/
def dictOf (entries : List (Value × Value)) : Value :=
  dict (mergedEntries entries)

/-- The value of a key that is a text. -/
def lookupText (entries : List (Value × Value)) (key : String) : Option Value :=
  (entries.find? fun e => e.1.text? == some key).map (·.2)

mutual

/-- Whether a value may be the key of a mapping or a member of a set. -/
def isKey : Value → Bool
  | list _ | set _ | dict _ => false
  | tuple items => areKeys items
  | fragment f => isKeyFragment f
  | decimal (.nan _ signalling _ _) => !signalling
  | _ => true

/-- Whether all parameters of a fragment may be keys. -/
def isKeyFragment : Fragment Value → Bool
  | ⟨_, ps, _⟩ => areKeys ps

/-- Whether all values may be keys. -/
def areKeys : List Value → Bool
  | [] => true
  | v :: vs => isKey v && areKeys vs

end

end Value

end SearchQuery
