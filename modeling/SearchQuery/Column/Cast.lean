import SearchQuery.Calendar.Iso
import SearchQuery.Text.Case
import SearchQuery.Value.Conversion

/-!
# Casting to the type of a column

A search form hands over texts where a column holds numbers, truth values or dates. `tryCast` turns
a value into one of the column's kind. A value that is of that kind already is left alone, a
blank text becomes `null`, and a value that cannot be converted passes through unchanged.

## Shape of a failure

A cast passes over the causes that a conversion has to fail by itself. It does not pass over those of the
machine, where an integer needs more memory than there is, or a value is nested too deep to be written.
`cast` is what a cast comes to on a machine that is large enough.
-/

namespace SearchQuery

/-- The kinds of values that columns hold. `array` is the kind of lists, `any` that of columns that
hold values of every kind, and `identifier` the kind of universally unique identifiers, which no
value here has. -/
inductive ColumnKind where
  | int
  | float
  | decimal
  | text
  | bool
  | date
  | moment
  | time
  | duration
  | bytes
  | array
  | identifier
  | any
  deriving DecidableEq, Inhabited

namespace ColumnKind

/-- Whether the values of the kind are ordered, so that a search may bound them. -/
def isComparable : ColumnKind → Bool
  | int | float | decimal | text | date | moment | time | duration => true
  | bool | bytes | array | identifier | any => false

/-- Whether a value is of the kind. Truth values are integers, and moments are dates. -/
def holds : ColumnKind → Value → Bool
  | int, .int _ | int, .bool _ => true
  | float, .float _ => true
  | decimal, .decimal _ => true
  | text, .text _ => true
  | bool, .bool _ => true
  | date, .date _ | date, .moment _ => true
  | moment, .moment _ => true
  | time, .time _ => true
  | duration, .duration _ => true
  | bytes, .bytes _ => true
  | array, .list _ => true
  | any, _ => true
  | _, _ => false

end ColumnKind

namespace Column

/-- Words for true. -/
def trueWords : List String := ["1", "t", "true", "y", "yes", "on"]

/-- Words for false. -/
def falseWords : List String := ["0", "f", "false", "n", "no", "off"]

/-- The truth value that a value writes, if it writes one. -/
def truthOf? : Value → Option Bool
  | .text s =>
    let word := String.ofList ((Text.trimChars s.toList).map Text.lowerChar)
    if trueWords.contains word then some true
    else if falseWords.contains word then some false
    else none
  | .int n => if n == 0 then some false else if n == 1 then some true else none
  | _ => none

/-- Whether a value is a text of white space. -/
def isBlankText (v : Value) : Bool :=
  v.text?.any Text.isBlank

/-! ## Casts on a machine -/

/-- Read the text of a value, if it can be written. -/
def readText {α : Type} (m : Machine) (read : String → Option α) (v : Value) : Except Failure α := do
  Value.orFail .badValue (read (← v.writtenOn m))

/-- What a cast tries for a value that is neither of the kind nor blank. -/
def attempt (m : Machine) (kind : ColumnKind) (v : Value) : Except Failure Value :=
  match kind with
  | .bool => .ok (((truthOf? v).map .bool).getD v)
  | .moment => (readText m Iso.moment? v).map .moment
  | .date => (readText m Iso.date? v).map .date
  | .time => (readText m Iso.time? v).map .time
  | .int => (v.toIntOn m).map .int
  | .float => v.toFloat.map .float
  | .decimal => v.toDecimal.map .decimal
  | .text => (v.writtenOn m).map .text
  | .duration | .bytes | .array | .identifier | .any => .ok v

/-- The causes that a cast passes over: a value is of the wrong type, is badly written, or is too large
for what it is converted to. -/
def passesOver : Failure → Bool
  | .wrongType | .badValue | .tooLarge | .badDecimal => true
  | _ => false

/-- Cast a value to a kind. A conversion that fails for a cause that is passed over leaves the value, and
any other failure is that of the cast. -/
def tryCast (m : Machine) (kind : ColumnKind) (v : Value) : Except Failure Value :=
  match v with
  | .null => .ok .null
  | v =>
    if kind.holds v then .ok v
    else if isBlankText v then .ok .null
    else
      match attempt m kind v with
      | .ok w => .ok w
      | .error e => if passesOver e then .ok v else .error e

/-! ## What a cast comes to -/

/-- The value of a kind that a value converts to, if it converts to one. -/
def convert? (kind : ColumnKind) (v : Value) : Option Value :=
  match kind with
  | .bool => (truthOf? v).map .bool
  | .moment => (v.display?.bind Iso.moment?).map .moment
  | .date => (v.display?.bind Iso.date?).map .date
  | .time => (v.display?.bind Iso.time?).map .time
  | .int => v.toInt.toOption.map .int
  | .float => v.toFloat.toOption.map .float
  | .decimal => v.toDecimal.toOption.map .decimal
  | .text => v.written.toOption.map .text
  | .duration | .bytes | .array | .identifier | .any => none

/-- What a value is cast to where no machine bounds the conversion. -/
def cast (kind : ColumnKind) (v : Value) : Value :=
  match v with
  | .null => .null
  | v =>
    if kind.holds v then v
    else if isBlankText v then .null
    else (convert? kind v).getD v

end Column

end SearchQuery
