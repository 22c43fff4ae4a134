import SearchQuery.Text.Alphanumeric
import SearchQuery.Text.Blank

/-!
# Keywords of a search string

A search string is cut into keywords. A keyword is a word or a phrase in double quotes, either
with an optional sign in front. A word is a run of characters other than spaces, double quotes
and colons that starts and ends with a word character; one colon behind it belongs to it. All
other characters only separate keywords. A keyword is kept without its quotes.

## Shape of the scanner

`tokenLength?` says how many characters a keyword takes up that starts at a given place, if one
does. The scanner walks through the text character by character, so that it always knows the
character before the place: after a keyword of length `n` was found, it skips the `n - 1`
characters that follow.
-/

namespace SearchQuery.Query

open SearchQuery.Text

/-- Whether `c` may stand inside a word. -/
def isBare (c : Char) : Bool :=
  c != ' ' && c != '"' && c != ':'

/-- Whether `c` is a sign. -/
def isSign (c : Char) : Bool :=
  c == '-' || c == '+'

/-- Whether a word starts or ends between two characters, either of which may be missing. -/
def isBoundary (before after : Option Char) : Bool :=
  before.any isWordChar != after.any isWordChar

/-- The longest word at the front of `cs`: a run of bare characters, up to its last word
character. -/
def wordPart (cs : List Char) : List Char :=
  dropEndWhile (!isWordChar ·) (cs.takeWhile isBare)

/-- The length of the word that starts between `before` and `cs`, with a colon behind it. -/
def wordLength? (before : Option Char) (cs : List Char) : Option Nat :=
  let word := wordPart cs
  if isBoundary before cs.head? && !word.isEmpty then
    some (word.length + if (cs.drop word.length).head? == some ':' then 1 else 0)
  else none

/-- The length of the phrase at the front of `cs`, its quotes included. -/
def phraseLength? : List Char → Option Nat
  | '"' :: cs =>
    let inside := cs.takeWhile (· != '"')
    if (cs.drop inside.length).isEmpty then none else some (inside.length + 2)
  | _ => none

/-- Try `length?` behind a sign first, and then at the place itself. -/
def signed (length? : Option Char → List Char → Option Nat) (before : Option Char) :
    List Char → Option Nat
  | [] => length? before []
  | c :: cs =>
    if isSign c then
      match length? (some c) cs with
      | some n => some (n + 1)
      | none => length? before (c :: cs)
    else length? before (c :: cs)

/-- The length of the keyword that starts between `before` and `cs`. -/
def tokenLength? (before : Option Char) (cs : List Char) : Option Nat :=
  match signed wordLength? before cs with
  | some n => some n
  | none => signed (fun _ => phraseLength?) before cs

/-- The keywords of `cs`, the first `skip` characters of which belong to an earlier keyword. -/
def scan (skip : Nat) (before : Option Char) : List Char → List (List Char)
  | [] => []
  | c :: cs =>
    match skip with
    | skip + 1 => scan skip (some c) cs
    | 0 =>
      match tokenLength? before (c :: cs) with
      | some n => ((c :: cs).take n).filter (· != '"') :: scan (n - 1) (some c) cs
      | none => scan 0 (some c) cs

/-- The keywords of a search string, in order of appearance. -/
def tokenChars (cs : List Char) : List (List Char) :=
  scan 0 none cs

/-- The keywords of a search string, in order of appearance. -/
def tokens (s : String) : List String :=
  (tokenChars s.toList).map String.ofList

end SearchQuery.Query
