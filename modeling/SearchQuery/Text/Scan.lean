import SearchQuery.Text.Hex

/-!
# Scanning

Documents are read by scanners, which consume a front part of the characters that are left, or
fail.

## Shape of the failure

A document is malformed, it writes an integer with more digits than integers may have, or its parts
are nested deeper than they can be read. No failure tells where it happened.
-/

namespace SearchQuery.Text

/-- Why a document cannot be read. -/
inductive Defect where
  | malformed
  | tooManyDigits
  | tooDeep
  deriving DecidableEq, Inhabited

/-- A computation that consumes characters. -/
abbrev Scan := StateT (List Char) (Except Defect)

namespace Scan

/-- Fail. -/
def malformed {α : Type} : Scan α :=
  throw .malformed

/-- Go on with a result, if there is one. -/
def orMalformed {α : Type} : Option α → Scan α
  | some a => pure a
  | none => malformed

/-- Skip characters while `p` holds. -/
def skipWhile (p : Char → Bool) : Scan Unit :=
  modify (·.dropWhile p)

/-- Take characters while `p` holds. -/
def takeWhile (p : Char → Bool) : Scan (List Char) :=
  modifyGet fun cs => (cs.takeWhile p, cs.dropWhile p)

/-- Consume `word` if it comes next, and tell whether it did. -/
def skip? (word : List Char) : Scan Bool :=
  modifyGet fun cs =>
    if word.isPrefixOf cs then (true, cs.drop word.length) else (false, cs)

/-- Consume `word`, which has to come next. -/
def skip (word : List Char) : Scan Unit := do
  if !(← skip? word) then malformed

/-- The number that the next `width` characters write in hexadecimal digits. -/
def hexNumber (width : Nat) : Scan Nat := do
  let cs ← get
  let ds := cs.take width
  set (cs.drop width)
  if ds.length != width then malformed
  orMalformed (ofHexDigits? ds)

/-- Run a scanner on all of a text. -/
def onText {α : Type} (scan : Scan α) (cs : List Char) : Except Defect α :=
  scan.run' cs

end Scan

end SearchQuery.Text
