import SearchQuery.Calendar.Basic
import SearchQuery.Number.Power

/-!
# Dates and times in standard notation

Dates are read as year, month and day or as year, week and day, with hyphens or without; times
of day as hours, minutes and seconds, with colons or without, and a fraction of any length of
which six digits count; an offset is `Z` or a signed time of day. A moment is a date, any one
character, and a time of day.

## Shape of the readers

A reader takes characters from the front and returns the rest. The time reader does not insist
on the whole text: `clock?` also reports whether something was left over, and an offset excuses
what is left in front of it, so `10:+02:00` is read as ten o'clock.
-/

namespace SearchQuery.Iso

/-- Read exactly `n` digits. -/
def digits? : Nat → Nat → List Char → Option (Nat × List Char)
  | 0, acc, cs => some (acc, cs)
  | n + 1, acc, c :: cs =>
    if c.isDigit then digits? n (10 * acc + (c.toNat - 48)) cs else none
  | _ + 1, _, [] => none

/-- Read a week date after the year and the letter `W`. Without a day the week's Monday is
meant. What follows the day is not looked at. -/
def week? (year : Nat) (hyphens : Bool) (cs : List Char) : Option Date :=
  match digits? 2 0 cs with
  | none => none
  | some (week, []) => Date.ofWeek? year week 1
  | some (week, c :: cs) =>
    let rest := if hyphens then if c == '-' then some cs else none else some (c :: cs)
    match rest.bind (digits? 1 0) with
    | some (day, _) => Date.ofWeek? year week day
    | none => none

/-- Read a date at the front of `cs`. What follows the day is not looked at. -/
def dateOf? (cs : List Char) : Option Date :=
  match digits? 4 0 cs with
  | none => none
  | some (year, cs) =>
    -- The first hyphen settles it: both separators are there, or none.
    let hyphens := cs.head? == some '-'
    let cs := if hyphens then cs.drop 1 else cs
    if cs.head? == some 'W' then week? year hyphens (cs.drop 1)
    else
      match digits? 2 0 cs with
      | none => none
      | some (month, cs) =>
        if hyphens && cs.head? != some '-' then none
        else
          match digits? 2 0 (if hyphens then cs.drop 1 else cs) with
          -- What is left over has been cut off by the caller.
          | some (day, _) => Date.of? year month day
          | none => none

/-- Whether the text ends here. A NUL character ends it, too. -/
def atEnd (cs : List Char) : Bool :=
  cs.head?.all (· == Char.ofNat 0)

/-- The number of bytes that characters take up. -/
def byteLength (cs : List Char) : Nat :=
  cs.foldl (fun n c => n + c.utf8Size) 0

/-- Read a date. Only texts of seven, eight or ten bytes are dates. -/
def date? (s : String) : Option Date :=
  let n := s.utf8ByteSize
  if n == 7 || n == 8 || n == 10 then dateOf? s.toList else none

/-- Read up to six digits of a fraction as microseconds; further digits are skipped. Reports
whether anything but digits follows. -/
def fraction? (cs : List Char) : Option (Nat × Bool) :=
  let n := min cs.length 6
  match digits? n 0 cs with
  | none => none
  | some (f, rest) => some (f * tenTo (6 - n), !atEnd (rest.dropWhile Char.isDigit))

/-- What a clock reading holds: hour, minute, second, microsecond, and whether something that is
no part of it was left over. -/
structure Clock where
  hour : Nat
  minute : Nat
  second : Nat
  microsecond : Nat
  leftover : Bool

/-- The parts of a clock reading, in the order in which they are read. -/
def Clock.ofParts (parts : List Nat) (microsecond : Nat) (leftover : Bool) : Clock :=
  ⟨parts.getD 0 0, parts.getD 1 0, parts.getD 2 0, microsecond, leftover⟩

/-- Read the parts of a clock reading, at most `n` more. The first separator decides whether the
parts are separated by colons. A reading ends with the text, or with one character that is left
over, or with a fraction. -/
def clockParts? : Nat → List Nat → Bool → List Char → Option Clock
  | 0, _, _, _ => none
  | n + 1, parts, colons, cs =>
    match digits? 2 0 cs with
    | none => none
    | some (part, rest) =>
      let parts := parts ++ [part]
      match rest with
      | [] => some (.ofParts parts 0 false)
      -- One character behind the parts is left to the caller, if it is a single byte.
      | [c] => if c.toNat < 128 then some (.ofParts parts 0 !(atEnd [c])) else none
      | c :: more =>
        -- Whether there are colons is told by what stands behind the hours.
        let colons := if parts.length == 1 then c == ':' else colons
        let fraction (cs : List Char) :=
          (fraction? cs).map fun (f, left) => Clock.ofParts parts f left
        let continueAt (cs : List Char) :=
          if n == 0 then fraction cs else clockParts? n parts colons cs
        if colons && c == ':' then continueAt more
        else if c == '.' || c == ',' then fraction more
        else if !colons then continueAt (c :: more)
        else none

/-- Read a clock reading. -/
def clock? (cs : List Char) : Option Clock :=
  clockParts? 3 [] true cs

/-- Whether an offset starts with `c`. -/
def startsOffset (c : Char) : Bool :=
  c == '+' || c == '-' || c == 'Z'

/-- Read an offset, in microseconds. An offset of no whole seconds counts as none. -/
def offset? : List Char → Option Int
  | [] => none
  | 'Z' :: rest => if atEnd rest then some 0 else none
  | sign :: rest =>
    match clock? rest with
    | none => none
    | some c =>
      if c.leftover then none
      else
        let seconds := (c.hour * 60 + c.minute) * 60 + c.second
        let micros : Nat := if seconds == 0 then 0 else seconds * 1000000 + c.microsecond
        some (if sign == '-' then -(micros : Int) else micros)

/-- Split the text of a time where its offset starts. -/
def splitOffset (cs : List Char) : List Char × List Char :=
  (cs.takeWhile (!startsOffset ·), cs.dropWhile (!startsOffset ·))

/-- Read a time of day, with or without an offset, that takes up all of `cs`. -/
def timeOf? (cs : List Char) : Option TimeOfDay :=
  let (reading, rest) := splitOffset cs
  match clock? reading with
  | none => none
  | some c =>
    if rest.isEmpty then
      if c.leftover then none else TimeOfDay.of? c.hour c.minute c.second c.microsecond none
    else
      match offset? rest with
      | some o => TimeOfDay.of? c.hour c.minute c.second c.microsecond (some o)
      | none => none

/-- Read a time of day; a letter `T` may precede it. -/
def time? (s : String) : Option TimeOfDay :=
  match s.toList with
  | 'T' :: cs => timeOf? cs
  | cs => timeOf? cs

/-- Where the date of a moment ends, given its characters. A week date may be followed by a
separator that is itself a digit or a hyphen; digits after it come in pairs, which tells whether
a day of the week is there. -/
def dateEnd? (cs : List Char) : Option Nat :=
  let at? (n : Nat) : Option Char := cs[n]?
  let isDigitAt (n : Nat) : Bool := (at? n).any Char.isDigit
  -- The only date of seven characters is a week without a day and without a hyphen.
  if byteLength cs == 7 then some 7
  else if at? 4 == some '-' then
    if at? 5 == some 'W' then
      if cs.length < 8 then none
      else if at? 8 == some '-' then
        if cs.length == 9 then none
        else if isDigitAt 10 then some 8
        else some 10
      else some 8
    else some 10
  else if at? 4 == some 'W' then
    let pos := 7 + ((cs.drop 7).takeWhile Char.isDigit).length
    -- The digits behind a week are those of a day and of the clock; a clock has an even number of them.
    if pos < 9 then some pos else if pos % 2 == 0 then some 7 else some 8
  else some 8

/-- Read a moment: a date, or a date, one character and a time of day. -/
def moment? (s : String) : Option Moment :=
  let cs := s.toList
  if byteLength cs < 7 then none
  else
    match dateEnd? cs with
    | none => none
    | some n =>
      match dateOf? (cs.take n) with
      | none => none
      | some date =>
        if (cs.drop n).isEmpty then some ⟨date, ⟨0, 0, 0, 0, none⟩⟩
        else (timeOf? (cs.drop (n + 1))).map (Moment.mk date)

end SearchQuery.Iso
