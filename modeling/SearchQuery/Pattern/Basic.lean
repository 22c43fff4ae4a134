import SearchQuery.Pattern.Flags
import SearchQuery.Text.Alphanumeric
import SearchQuery.Text.Blank
import SearchQuery.Text.Case
import SearchQuery.Text.Digit

/-!
# Patterns

A pattern is a regular expression that decides whether a keyword is noise. Only one question is
asked of it: does it match somewhere in a text?

## Shape of a pattern

A pattern keeps the text it was read from beside its flags and its tree, a `Node`. What a tree is made
of are sets of characters, places between them and what groups have matched; the tree of a text alone,
`Node.literal`, is a sequence of sets of one character.

The members of a set are code points, and some of those are no characters. They stand for nothing.
-/

namespace SearchQuery

/-! ## Sets of characters -/

/-- A named class of characters. -/
inductive CharClass where
  | digit
  | space
  | word
  deriving DecidableEq, Inhabited

/-- Whether a character belongs to a named class. -/
def CharClass.contains (f : Flags) : CharClass → Char → Bool
  | digit, c => if f.ascii then c.isDigit else Text.isDigit c
  | space, c =>
    if f.ascii then c == ' ' || (decide (9 ≤ c.toNat) && decide (c.toNat ≤ 13)) else Text.isSpace c
  | word, c => if f.ascii then c == '_' || c.isAlphanum else Text.isWordChar c

/-- One member of a bracketed set. -/
inductive SetItem where
  | char (code : Nat)
  | range (first last : Nat)
  | named (negated : Bool) (cls : CharClass)
  deriving DecidableEq, Inhabited

namespace SetItem

/-- Whether a character belongs to a range, with or without regard to case. Without regard to case a
range that leaves the basic plane is searched for the large form of a letter, too, whichever letters
the flags allow for. -/
def inRange (f : Flags) (first last : Nat) (x : Char) : Bool :=
  let holds (y : Char) : Bool := decide (first ≤ y.toNat) && decide (y.toNat ≤ last)
  if f.ignoreCase then
    (f.variants x).any holds || (decide (0xffff < last) && holds (Text.upperChar (f.lower x)))
  else holds x

/-- Whether a character is a member, with or without regard to case. -/
def contains (f : Flags) : SetItem → Char → Bool
  | char code, x => decide code.isValidChar && f.sameChar (Char.ofNat code) x
  | range first last, x => inRange f first last x
  | named negated cls, x => cls.contains f x != negated

end SetItem

/-- Whether a character is one of several members. Beside other members, a letter outside the
basic plane stands for the letters that it is the small form of, so a capital there stands for
none. -/
def containsAny (f : Flags) (items : List SetItem) (x : Char) : Bool :=
  match items with
  | [item] => item.contains f x
  | items => items.any fun item =>
    match item with
    | .char code =>
      if f.ignoreCase && decide (0xffff < code) then (Text.lowerChar x).toNat == code
      else item.contains f x
    | _ => item.contains f x

/-! ## Trees -/

/-- A place between two characters that a pattern can ask for. -/
inductive Anchor where
  | lineStart
  | lineEnd
  | textStart
  | textEnd
  | boundary
  | noBoundary
  deriving DecidableEq, Inhabited

/-- How a repetition chooses among the numbers of rounds that it may make: as many as possible first,
as few as possible first, or as many as possible without another choice. -/
inductive Greed where
  | greedy
  | lazy
  | possessive
  deriving DecidableEq, Inhabited

/-- The least and the largest number of characters that a tree matches. Without a largest number there
is no bound. -/
structure Width where
  least : Nat
  most : Option Nat
  deriving DecidableEq, Inhabited

/-- The tree of a pattern. What stands in a group may have flags of its own. A reference to a group
knows the width of the group, and a look back how far back it looks. -/
inductive Node where
  | empty
  | anyChar
  | set (negated : Bool) (items : List SetItem)
  | anchor (place : Anchor)
  | backref (group : Nat) (width : Width)
  | seq (first second : Node)
  | either (left right : Node)
  | repeated (least : Nat) (most : Option Nat) (greed : Greed) (body : Node)
  | group (capture : Option Nat) (on off : Flags) (body : Node)
  | atomic (body : Node)
  | look (behind : Option Width) (negated : Bool) (body : Node)
  | conditional (group : Nat) (yes no : Node)
  deriving DecidableEq, Inhabited

/-- A pattern: the text it was read from, its flags, and its tree. -/
structure Pattern where
  source : String
  flags : Flags
  node : Node
  deriving DecidableEq, Inhabited

/-- Whether a pattern disregards case everywhere. -/
def Pattern.ignoreCase (p : Pattern) : Bool :=
  p.flags.ignoreCase

/-! ## Widths -/

namespace Width

/-- One thing behind another one. -/
def add (w v : Width) : Width :=
  ⟨w.least + v.least, do return (← w.most) + (← v.most)⟩

/-- One of two things. -/
def or (w v : Width) : Width :=
  ⟨min w.least v.least, do return max (← w.most) (← v.most)⟩

/-- Rounds of one thing. What is nothing, or made in no rounds, is nothing. -/
def times (w : Width) (least : Nat) (most : Option Nat) : Width :=
  ⟨w.least * least,
    if w.most == some 0 || most == some 0 then some 0 else do return (← w.most) * (← most)⟩

end Width

/-- How many characters a tree matches. A look at the text around takes none of them. -/
def Node.width : Node → Width
  | .empty | .anchor _ | .look .. => ⟨0, some 0⟩
  | .anyChar | .set .. => ⟨1, some 1⟩
  | .backref _ w => w
  | .seq first second => first.width.add second.width
  | .either left right => left.width.or right.width
  | .repeated least most _ body => body.width.times least most
  | .group _ _ _ body | .atomic body => body.width
  | .conditional _ yes no => yes.width.or no.width

/-! ## Patterns that mean one text -/

/-- Characters with a meaning of their own in a pattern, and those that are escaped for clarity. -/
def isSpecial (c : Char) : Bool :=
  "()[]\x7b\x7d?*+-|^$\\.&~# \t\n\r\x0b\x0c".toList.contains c

/-- A text with every special character escaped, read as a pattern, means the text itself. -/
def escapeChars (cs : List Char) : List Char :=
  cs.flatMap fun c => if isSpecial c then ['\\', c] else [c]

/-- The tree that matches one text. -/
def Node.literal : List Char → Node
  | [] => .empty
  | [c] => .set false [.char c.toNat]
  | c :: cs => .seq (.set false [.char c.toNat]) (literal cs)

/-- The pattern that finds a text anywhere, whatever its case. -/
def Pattern.literal (s : String) : Pattern :=
  ⟨String.ofList (escapeChars s.toList), { ignoreCase := true, unicode := true }, .literal s.toList⟩

end SearchQuery
