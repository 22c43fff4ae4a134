/-!
# White space

White space separates keywords, surrounds numbers and makes a text blank. Besides the spaces,
tabs and line ends of plain text it holds the four information separators, the next-line
character and the spaces of other scripts. The zero-width space is not white space.
-/

namespace SearchQuery.Text

/-- Whether `c` is white space. -/
def isSpace (c : Char) : Bool :=
  let n := c.toNat
  (decide (9 ≤ n) && decide (n ≤ 13)) || (decide (28 ≤ n) && decide (n ≤ 32)) || n == 0x85 ||
    n == 0xa0 || n == 0x1680 || (decide (0x2000 ≤ n) && decide (n ≤ 0x200a)) || n == 0x2028 ||
    n == 0x2029 || n == 0x202f || n == 0x205f || n == 0x3000

/-- Remove the longest end of `cs` whose characters satisfy `p`. -/
def dropEndWhile (p : Char → Bool) : List Char → List Char
  | [] => []
  | c :: cs =>
    match dropEndWhile p cs with
    | [] => if p c then [] else [c]
    | rest => c :: rest

/-- Remove white space at both ends. -/
def trimChars (cs : List Char) : List Char :=
  dropEndWhile isSpace (cs.dropWhile isSpace)

/-- Remove white space at both ends of a text. -/
def trim (s : String) : String :=
  String.ofList (trimChars s.toList)

/-- Whether a text holds nothing but white space. -/
def isBlank (s : String) : Bool :=
  s.toList.all isSpace

/-- Replace every run of white space by one space. -/
def collapseChars : List Char → List Char
  | [] => []
  | c :: cs =>
    if isSpace c then
      match cs with
      | d :: _ => if isSpace d then collapseChars cs else ' ' :: collapseChars cs
      | [] => [' ']
    else c :: collapseChars cs

end SearchQuery.Text
