/-!
# Dates, times of day, moments and durations

Dates are those of the Gregorian calendar, carried back to year 1. A time of day may have an
offset from universal time. A moment is a date with a time of day, and a duration is a number of
microseconds.

## Shape of the texts

Every kind has its standard text (`2024-01-02`, `10:00:01.500000+02:00`), which shows the
fraction of a second only when there is one, and a constructor text, which names its parts.
-/

namespace SearchQuery

/-- A day of the calendar. -/
structure Date where
  year : Nat
  month : Nat
  day : Nat
  deriving DecidableEq, Inhabited

/-- A time of day. The offset from universal time, if any, is in microseconds. -/
structure TimeOfDay where
  hour : Nat
  minute : Nat
  second : Nat
  microsecond : Nat
  offset : Option Int := none
  deriving DecidableEq, Inhabited

/-- A date with a time of day. -/
structure Moment where
  date : Date
  time : TimeOfDay
  deriving DecidableEq, Inhabited

/-- A length of time. -/
structure Duration where
  microseconds : Int
  deriving DecidableEq, Inhabited

/-! ## The calendar -/

/-- Whether a year has 366 days. -/
def isLeapYear (year : Nat) : Bool :=
  year % 4 == 0 && (year % 100 != 0 || year % 400 == 0)

/-- The number of days of a month. -/
def daysInMonth (year month : Nat) : Nat :=
  if month == 2 then if isLeapYear year then 29 else 28
  else if month == 4 || month == 6 || month == 9 || month == 11 then 30 else 31

/-- Days before the first of January of a year. -/
def daysBeforeYear (year : Nat) : Nat :=
  let y := year - 1
  y * 365 + y / 4 - y / 100 + y / 400

/-- Days of the year before the first of a month. -/
def daysBeforeMonth (year month : Nat) : Nat :=
  (List.range (month - 1)).foldl (fun days m => days + daysInMonth year (m + 1)) 0

namespace Date

/-- The date with the given parts, if there is such a day. -/
def of? (year month day : Nat) : Option Date :=
  if 1 ≤ year ∧ year ≤ 9999 ∧ 1 ≤ month ∧ month ≤ 12 ∧ 1 ≤ day ∧ day ≤ daysInMonth year month then
    some ⟨year, month, day⟩
  else none

/-- The number of the day, counted from 1 on the first of January of year 1. -/
def ordinal (d : Date) : Nat :=
  daysBeforeYear d.year + daysBeforeMonth d.year d.month + d.day

/-- The date of a day number. -/
def ofOrdinal? (n : Nat) : Option Date :=
  if n == 0 then none
  else
    let guess := n / 366
    match (List.range 30).find? fun k => n ≤ daysBeforeYear (guess + k + 1) with
    | none => none
    | some k =>
      let year := guess + k
      let rest := n - daysBeforeYear year
      match ((List.range 12).map fun m => 12 - m).find? fun m => daysBeforeMonth year m < rest with
      | some month => of? year month (rest - daysBeforeMonth year month)
      | none => none

end Date

/-- The number of the Monday that starts the first week of a year: the week that holds the first
Thursday of the year. -/
def firstMonday (year : Nat) : Nat :=
  let first := daysBeforeYear year + 1
  let weekday := (first + 6) % 7
  let monday := first + 7 - weekday
  if weekday ≤ 3 then monday - 7 else monday

/-- Whether a year has a week 53: its first of January is a Thursday, or a Wednesday when the
year is a leap year. -/
def hasWeek53 (year : Nat) : Bool :=
  let weekday := (daysBeforeYear year + 7) % 7
  weekday == 3 || (weekday == 2 && isLeapYear year)

/-- The date of a day of a week of a year. -/
def Date.ofWeek? (year week day : Nat) : Option Date :=
  if year == 0 ∨ week == 0 ∨ 53 < week ∨ (week == 53 ∧ !hasWeek53 year) ∨ day == 0 ∨ 7 < day then
    none
  else Date.ofOrdinal? (firstMonday year + 7 * (week - 1) + (day - 1))

/-- The time of day with the given parts, if they are in range; an offset is shorter than a
day. -/
def TimeOfDay.of? (hour minute second microsecond : Nat) (offset : Option Int) :
    Option TimeOfDay :=
  if hour ≤ 23 ∧ minute ≤ 59 ∧ second ≤ 59 ∧ microsecond ≤ 999999 ∧
      offset.all (fun o => decide (o.natAbs < 86400000000)) then
    some ⟨hour, minute, second, microsecond, offset⟩
  else none

/-! ## Texts -/

/-- A number in at least `width` digits. -/
def padded (width n : Nat) : String :=
  let ds := Nat.toDigits 10 n
  String.ofList (List.replicate (width - ds.length) '0' ++ ds)

/-- Year, month and day, each with all its digits. -/
def Date.text (d : Date) : String :=
  padded 4 d.year ++ "-" ++ padded 2 d.month ++ "-" ++ padded 2 d.day

/-- An offset as hours and minutes, with seconds and microseconds only where there are any. -/
def offsetText (offset : Int) : String :=
  let n := offset.natAbs
  let seconds := n / 1000000
  let fraction := n % 1000000
  (if offset < 0 then "-" else "+") ++ padded 2 (seconds / 3600) ++ ":" ++
    padded 2 (seconds / 60 % 60) ++
    (if seconds % 60 == 0 && fraction == 0 then "" else ":" ++ padded 2 (seconds % 60)) ++
    (if fraction == 0 then "" else "." ++ padded 6 fraction)

/-- Hours, minutes and seconds, then the fraction and the offset where there are any. -/
def TimeOfDay.text (t : TimeOfDay) : String :=
  padded 2 t.hour ++ ":" ++ padded 2 t.minute ++ ":" ++ padded 2 t.second ++
    (if t.microsecond == 0 then "" else "." ++ padded 6 t.microsecond) ++
    (match t.offset with
      | some o => offsetText o
      | none => "")

/-- Date and time of day, with `separator` between them. -/
def Moment.text (separator : String) (m : Moment) : String :=
  m.date.text ++ separator ++ m.time.text

/-- Days, seconds of the day and microseconds of the second; only the days may be negative. -/
def Duration.parts (d : Duration) : Int × Nat × Nat :=
  let days := Int.fdiv d.microseconds 86400000000
  let rest := (Int.fmod d.microseconds 86400000000).toNat
  (days, rest / 1000000, rest % 1000000)

/-- Days where there are any, then hours, minutes and seconds. -/
def Duration.text (d : Duration) : String :=
  let (days, seconds, micros) := d.parts
  (if days == 0 then ""
    else toString days ++ (if days.natAbs == 1 then " day, " else " days, ")) ++
    toString (seconds / 3600) ++ ":" ++ padded 2 (seconds / 60 % 60) ++ ":" ++
    padded 2 (seconds % 60) ++ (if micros == 0 then "" else "." ++ padded 6 micros)

/-- The constructor text of a duration: the parts that are not zero, by name. -/
def Duration.literal (d : Duration) : String :=
  let (days, seconds, micros) := d.parts
  let part (name : String) (n : Int) : List String :=
    if n == 0 then [] else [name ++ "=" ++ toString n]
  let shown := part "days" days ++ part "seconds" seconds ++ part "microseconds" micros
  "datetime.timedelta(" ++ (if shown.isEmpty then "0" else ", ".intercalate shown) ++ ")"

/-- The constructor text of a date. -/
def Date.literal (d : Date) : String :=
  "datetime.date(" ++ ", ".intercalate [toString d.year, toString d.month, toString d.day] ++ ")"

/-- The constructor text of an offset. -/
def offsetLiteral (offset : Int) : String :=
  if offset == 0 then "datetime.timezone.utc"
  else "datetime.timezone(" ++ (Duration.mk offset).literal ++ ")"

/-- The constructor arguments of a time of day: hour and minute always, second and microsecond
where they are needed, the offset by name. -/
def TimeOfDay.arguments (t : TimeOfDay) : List String :=
  [toString t.hour, toString t.minute] ++
    (if t.microsecond != 0 then [toString t.second, toString t.microsecond]
      else if t.second != 0 then [toString t.second] else []) ++
    (match t.offset with
      | some o => ["tzinfo=" ++ offsetLiteral o]
      | none => [])

/-- The constructor text of a time of day. -/
def TimeOfDay.literal (t : TimeOfDay) : String :=
  "datetime.time(" ++ ", ".intercalate t.arguments ++ ")"

/-- The constructor text of a moment. -/
def Moment.literal (m : Moment) : String :=
  "datetime.datetime(" ++
    ", ".intercalate ([toString m.date.year, toString m.date.month, toString m.date.day] ++
      m.time.arguments) ++ ")"

/-! ## Comparison -/

/-- Microseconds since midnight. -/
def TimeOfDay.sinceMidnight (t : TimeOfDay) : Int :=
  (((t.hour * 60 + t.minute) * 60 + t.second) * 1000000 + t.microsecond : Nat)

/-- Whether two times of day are the same: both have an offset and agree in universal time, or
neither has one and they agree as they stand. -/
def TimeOfDay.same (a b : TimeOfDay) : Bool :=
  match a.offset, b.offset with
  | some o, some p => a.sinceMidnight - o == b.sinceMidnight - p
  | none, none => a.sinceMidnight == b.sinceMidnight
  | _, _ => false

/-- Microseconds since the start of the calendar. -/
def Moment.sinceStart (m : Moment) : Int :=
  (m.date.ordinal : Int) * 86400000000 + m.time.sinceMidnight

/-- Whether two moments are the same, as for times of day. -/
def Moment.same (a b : Moment) : Bool :=
  match a.time.offset, b.time.offset with
  | some o, some p => a.sinceStart - o == b.sinceStart - p
  | none, none => a.sinceStart == b.sinceStart
  | _, _ => false

end SearchQuery
