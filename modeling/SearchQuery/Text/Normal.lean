import SearchQuery.Text.Normal.Table

/-!
# The normal form of names

Names that look the same can be written with different characters: a letter and a mark, or one
character for both; a ligature, or its letters. The normal form writes every character that only
stands for others by these, puts marks in a fixed order, and then joins letters and marks as far as
there are characters for them.

## Shape of the steps

`takenApart` splits a character as far as it goes, `inMarkOrder` inserts each mark behind those
that come before it, and `joined` walks through the result with the last letter at hand, which
takes up every mark that nothing keeps from it. Syllables of the Korean alphabet are split and
joined by counting.
-/

namespace SearchQuery.Text

/-- What is looked up while a text is brought into its normal form. -/
structure NormalTables where
  compositions : List Composition
  equivalents : List (Nat × List Nat)
  marks : List MarkRun

namespace NormalTables

/-- The class of a mark; other characters have the class 0. -/
def classOf (t : NormalTables) (n : Nat) : Nat :=
  match t.marks.find? fun r => decide (r.first ≤ n) && decide (n ≤ r.last) with
  | some r => r.markClass
  | none => 0

/-- The letters of a Korean syllable, or the character itself. -/
def syllableLetters (n : Nat) : List Nat :=
  if 0xac00 ≤ n ∧ n ≤ 0xd7a3 then
    let k := n - 0xac00
    [0x1100 + k / 588, 0x1161 + k % 588 / 28] ++
      if k % 28 == 0 then [] else [0x11a7 + k % 28]
  else [n]

/-- A character split as far as it goes, in at most `n` steps. -/
def takenApart (t : NormalTables) : Nat → Nat → List Nat
  | 0, c => [c]
  | n + 1, c =>
    match t.compositions.find? (·.whole == c) with
    | some m => takenApart t n m.base ++ [m.mark]
    | none => (t.equivalents.lookup c).getD (syllableLetters c)

/-- Insert a character behind the last one that it may not pass. Only a mark passes others, namely
marks of a higher class. `before` stands in reverse order. -/
def insertMark (t : NormalTables) (c : Nat) : List Nat → List Nat
  | [] => [c]
  | b :: before =>
    if t.classOf c != 0 && decide (t.classOf c < t.classOf b) then b :: insertMark t c before
    else c :: b :: before

/-- Characters with their marks in order. -/
def inMarkOrder (t : NormalTables) (cs : List Nat) : List Nat :=
  (cs.foldl (fun before c => insertMark t c before) []).reverse

/-- The syllable that two parts of Korean syllables make up. -/
def syllable? (a b : Nat) : Option Nat :=
  if 0x1100 ≤ a ∧ a < 0x1113 ∧ 0x1161 ≤ b ∧ b < 0x1176 then
    some (0xac00 + ((a - 0x1100) * 21 + (b - 0x1161)) * 28)
  else if 0xac00 ≤ a ∧ a ≤ 0xd7a3 ∧ (a - 0xac00) % 28 = 0 ∧ 0x11a7 < b ∧ b < 0x11c3 then
    some (a + (b - 0x11a7))
  else none

/-- The character that two characters make up. -/
def whole? (t : NormalTables) (a b : Nat) : Option Nat :=
  match t.compositions.find? fun m => m.base == a && m.mark == b with
  | some m => some m.whole
  | none => syllable? a b

/-- Join the characters behind a letter to it where nothing stands between them that keeps them
apart. `marks` are those behind the letter that could not be joined, in reverse order, and `last` is
the class of the last of them. -/
def joinedTo (t : NormalTables) (letter : Nat) (marks : List Nat) (last : Nat) :
    List Nat → List Nat
  | [] => letter :: marks.reverse
  | c :: cs =>
    let own := t.classOf c
    let apart := !marks.isEmpty && decide (own ≤ last)
    match if apart then none else t.whole? letter c with
    | some w => joinedTo t w marks last cs
    | none =>
      if own == 0 then letter :: marks.reverse ++ joinedTo t c [] 0 cs
      else joinedTo t letter (c :: marks) own cs

/-- Join letters and marks. Marks in front of the first letter have nothing to be joined to. -/
def joined (t : NormalTables) (cs : List Nat) : List Nat :=
  let marks := cs.takeWhile fun c => t.classOf c != 0
  match cs.drop marks.length with
  | [] => marks
  | letter :: rest => marks ++ joinedTo t letter [] 0 rest

end NormalTables

/-- The normal form of a text. Plain text is in normal form. -/
def normalForm (s : String) : String :=
  if s.toList.all fun c => decide (c.toNat < 128) then s
  else
    let t : NormalTables := ⟨compositions, equivalents, markRuns⟩
    let cs := s.toList.flatMap fun c => t.takenApart 8 c.toNat
    String.ofList ((t.joined (t.inMarkOrder cs)).map Char.ofNat)

end SearchQuery.Text
