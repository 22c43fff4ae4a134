import SearchQuery.Text.Case

/-!
# Flags of patterns

What a pattern says depends on flags. They are set for a whole pattern or for a group in it, by letters at
the start of the pattern or of the group.
-/

namespace SearchQuery

/-- Flags. `verbose` lets blanks and comments stand in a pattern, `multiline` makes the ends of lines
places, `dotAll` lets any character be a line end too, `ascii` and `unicode` say which letters and digits
there are, and `template` forbids repetitions. -/
structure Flags where
  ignoreCase : Bool := false
  multiline : Bool := false
  dotAll : Bool := false
  verbose : Bool := false
  ascii : Bool := false
  unicode : Bool := false
  template : Bool := false
  deriving DecidableEq, Inhabited

namespace Flags

/-- Combine flags one by one. -/
def zip (p : Bool → Bool → Bool) (f g : Flags) : Flags where
  ignoreCase := p f.ignoreCase g.ignoreCase
  multiline := p f.multiline g.multiline
  dotAll := p f.dotAll g.dotAll
  verbose := p f.verbose g.verbose
  ascii := p f.ascii g.ascii
  unicode := p f.unicode g.unicode
  template := p f.template g.template

/-- The flags of either one. -/
def or : Flags → Flags → Flags :=
  zip (· || ·)

/-- The flags of both. -/
def and : Flags → Flags → Flags :=
  zip (· && ·)

/-- The flags of the first that the second does not have. -/
def without : Flags → Flags → Flags :=
  zip fun a b => a && !b

/-- The flags that say which letters and digits there are. Only one of them can be on. -/
def alphabet : Flags :=
  { ascii := true, unicode := true }

/-- Whether two sets of flags have a flag in common. -/
def meets (f g : Flags) : Bool :=
  f.and g != {}

/-- The flags inside of a group that turns flags on and off. -/
def within (f on off : Flags) : Flags :=
  ((if on.meets alphabet then f.without alphabet else f).or on).without off

/-- The flag that a letter stands for. -/
def ofLetter? : Char → Option Flags
  | 'i' => some { ignoreCase := true }
  | 'm' => some { multiline := true }
  | 's' => some { dotAll := true }
  | 'x' => some { verbose := true }
  | 'a' => some { ascii := true }
  | 'u' => some { unicode := true }
  | 't' => some { template := true }
  | _ => none

/-- Whether two characters are equal, with or without regard to case. -/
def sameChar (f : Flags) (c d : Char) : Bool :=
  if !f.ignoreCase then c == d
  else if f.ascii then c.toLower == d.toLower
  else Text.sameLetter c d

/-- The small form of a letter. -/
def lower (f : Flags) (c : Char) : Char :=
  if f.ascii then c.toLower else Text.lowerChar c

/-- The characters that count as the given one when case is ignored. -/
def variants (f : Flags) (c : Char) : List Char :=
  if f.ascii then [c.toLower, c.toUpper] else Text.caseVariants c

/-- The names of the flags that a pattern is shown with. -/
def names (f : Flags) : List String :=
  [(f.template, "TEMPLATE"), (f.ignoreCase, "IGNORECASE"), (f.multiline, "MULTILINE"),
    (f.dotAll, "DOTALL"), (f.verbose, "VERBOSE"), (f.ascii, "ASCII")].filterMap fun p =>
    if p.1 then some p.2 else none

end Flags

end SearchQuery
