import SearchQuery.Pattern.Basic

/-!
# Searching for a pattern

A search asks whether a pattern matches somewhere in a text.

## Shape of the search

A match is found by trying. Each part of a pattern goes on from an `Attempt`: a position in the text and
what groups have matched so far. What is behind the part is given as a continuation, which tells whether the
rest matches. If it does not, the part tries its next choice. So a `Step` takes an attempt and a continuation,
and gives the first attempt, in the order of the choices, with which the continuation succeeds.

A repetition goes into another round only if the last one has moved. Since no part goes back in the text,
one more round than there are characters is enough where there is no other bound.
-/

namespace SearchQuery

/-- A position in a text, and where groups were opened and closed last. -/
structure Attempt where
  position : Nat
  opened : Nat → Option Nat := fun _ => none
  closed : Nat → Option Nat := fun _ => none

/-- What matches a part of a text and lets the rest match. -/
abbrev Step := Attempt → (Attempt → Option Attempt) → Option Attempt

/-! ## Repetitions -/

namespace Step

/-- What a part matches first, without another choice. -/
def atomic (step : Step) : Step := fun a k =>
  match step a some with
  | some b => k b
  | none => none

/-- A number of rounds. -/
def exactly (step : Step) : Nat → Step
  | 0, a, k => k a
  | n + 1, a, k => step a fun b => exactly step n b k

/-- At most `n` rounds, as many as possible first. `last` is where the last round started. -/
def greedy (step : Step) : Nat → Option Nat → Step
  | 0, _, a, k => k a
  | n + 1, last, a, k =>
    if last == some a.position then k a
    else (step a fun b => greedy step n (some a.position) b k) <|> k a

/-- At most `n` rounds, as few as possible first. -/
def lazy (step : Step) : Nat → Option Nat → Step
  | 0, _, a, k => k a
  | n + 1, last, a, k =>
    k a <|> if last == some a.position then none
      else step a fun b => lazy step n (some a.position) b k

/-- At most `n` rounds, as many as there are, each of them without another choice. -/
def possessive (step : Step) : Nat → Option Nat → Step
  | 0, _, a, k => k a
  | n + 1, last, a, k =>
    if last == some a.position then k a
    else
      match step a some with
      | some b => possessive step n (some a.position) b k
      | none => k a

/-- A repetition in a text of the given size. -/
def repeated (step : Step) (size least : Nat) (most : Option Nat) (greed : Greed) : Step :=
  let rounds := (most.map (· - least)).getD (size + 1)
  match greed with
  | .greedy => fun a k => step.exactly least a fun b => step.greedy rounds none b k
  | .lazy => fun a k => step.exactly least a fun b => step.lazy rounds none b k
  | .possessive => fun a k => step.atomic.exactly least a fun b => step.possessive rounds none b k

end Step

/-! ## Characters, places and groups -/

/-- Whether the gap at position `i` of a text is the place asked for. The end of the text may be followed
by one last line end; the absolute end may not. The empty text has no gap inside or beside a word. -/
def Anchor.holds (f : Flags) (text : Array Char) (place : Anchor) (i : Nat) : Bool :=
  match place with
  | .lineStart => i == 0 || (f.multiline && text[i - 1]? == some '\n')
  | .lineEnd =>
    i == text.size || (text[i]? == some '\n' && (f.multiline || i + 1 == text.size))
  | .textStart => i == 0
  | .textEnd => i == text.size
  | .boundary => isBoundary
  -- An empty text has neither a boundary nor a place that is none.
  | .noBoundary => !text.isEmpty && !isBoundary
where
  /-- Whether a word starts or ends at the gap. -/
  isBoundary : Bool :=
    let isWord := CharClass.word.contains f
    let before := if i == 0 then false else text[i - 1]?.any isWord
    before != text[i]?.any isWord

/-- The part of a text that a group has matched last, if it is closed. -/
def Attempt.matched? (a : Attempt) (group : Nat) : Option (Nat × Nat) := do
  let first ← a.opened group
  let last ← a.closed group
  if first ≤ last then some (first, last) else none

/-- One character that satisfies a test. -/
def Step.char (text : Array Char) (test : Char → Bool) : Step := fun a k =>
  if text[a.position]?.any test then k { a with position := a.position + 1 } else none

/-- What a group has matched, once more. -/
def Step.again (f : Flags) (text : Array Char) (group : Nat) : Step := fun a k => do
  let (first, last) ← a.matched? group
  let same (i : Nat) : Bool :=
    match text[first + i]?, text[a.position + i]? with
    | some c, some d => if f.ignoreCase then f.lower c == f.lower d else c == d
    | _, _ => false
  if (List.range (last - first)).all same then
    k { a with position := a.position + (last - first) }
  else none

/-- Note where a group is opened and closed. -/
def Step.captured (group : Nat) (step : Step) : Step := fun a k =>
  step { a with opened := fun g => if g == group then some a.position else a.opened g } fun b =>
    k { b with closed := fun g => if g == group then some b.position else b.closed g }

/-- Look at the text around without moving in it. -/
def Step.look (step : Step) (behind : Option Width) (negated : Bool) : Step := fun a k =>
  let back := (behind.map Width.least).getD 0
  let found := if a.position < back then none else step { a with position := a.position - back } some
  match found, negated with
  | some b, false => k { b with position := a.position }
  | none, true => k a
  | _, _ => none

/-! ## Trees -/

/-- How a tree matches in a text. -/
def Node.step (text : Array Char) : Flags → Node → Step
  | _, .empty => fun a k => k a
  | f, .anyChar => .char text fun c => f.dotAll || c != '\n'
  | f, .set negated items => .char text fun c => containsAny f items c != negated
  | f, .anchor place => fun a k => if place.holds f text a.position then k a else none
  | f, .backref number _ => .again f text number
  | f, .seq first second => fun a k => first.step text f a fun b => second.step text f b k
  | f, .either left right => fun a k => left.step text f a k <|> right.step text f a k
  | f, .repeated least most greed body => (body.step text f).repeated text.size least most greed
  | f, .group (some number) on off body => (body.step text (f.within on off)).captured number
  | f, .group none on off body => body.step text (f.within on off)
  | f, .atomic body => Step.atomic (body.step text f)
  | f, .look behind negated body => (body.step text f).look behind negated
  | f, .conditional number yes no => fun a k =>
    if (a.matched? number).isSome then yes.step text f a k else no.step text f a k

/-- Whether the pattern matches somewhere in a text. -/
def Pattern.search (p : Pattern) (s : String) : Bool :=
  let text := s.toList.toArray
  (List.range (text.size + 1)).any fun i => (p.node.step text p.flags { position := i } some).isSome

end SearchQuery
