import SearchQuery.Text.Scan

/-!
# Parts of a document

Configuration files are TOML documents. Blanks, comments, texts and keys are the parts that occur
in more than one kind of statement.

## Shape of a text

A text is written on one line or on several ones, and with escapes or without. Its closing quotes
say which: `closing` gives them, and the body is read until they come.
-/

namespace SearchQuery.Toml

open Text Text.Scan

/-! ## Blanks and comments -/

/-- Whether `c` is a blank inside a line. -/
def isGap (c : Char) : Bool :=
  c == ' ' || c == '\t'

/-- Whether `c` is a blank or ends a line. -/
def isGapOrEnd (c : Char) : Bool :=
  isGap c || c == '\n'

/-- Whether `c` must not stand in a comment or in a text of one line. -/
def isControl (c : Char) : Bool :=
  (decide (c.toNat < 32) && c != '\t') || c.toNat == 127

/-- Whether `c` must not stand in a text of several lines. -/
def isControlInLines (c : Char) : Bool :=
  isControl c && c != '\n'

/-- Skip blanks inside a line. -/
def skipGap : Scan Unit :=
  skipWhile isGap

/-- Skip a comment, up to the end of its line. -/
def skipComment : Scan Unit := do
  if ← skip? ['#'] then
    let comment ← takeWhile (· != '\n')
    if comment.any isControl then malformed

/-- Skip blanks, ends of lines and at most `n` comments. -/
def skipLines : Nat → Scan Unit
  | 0 => skipWhile isGapOrEnd
  | n + 1 => do
    skipWhile isGapOrEnd
    if (← get).head? == some '#' then
      skipComment
      skipLines n

/-- Skip all blanks, ends of lines and comments. -/
def skipBlanks : Scan Unit := do
  skipLines (← get).length

/-! ## Texts -/

/-- The character of an escape of one letter. -/
def shortEscape? : Char → Option Char
  | 'b' => some '\x08'
  | 't' => some '\t'
  | 'n' => some '\n'
  | 'f' => some '\x0c'
  | 'r' => some '\r'
  | '"' => some '"'
  | '\\' => some '\\'
  | _ => none

/-- A character by its code point in `width` hexadecimal digits. -/
def hexEscape (width : Nat) : Scan Char := do
  let n ← hexNumber width
  if n.isValidChar then return Char.ofNat n else malformed

/-- Skip the blanks behind a backslash that ends a line, and all that follow on later lines. -/
def lineContinuation : Scan Unit := do
  skipGap
  match ← get with
  | [] => pure ()
  | c :: _ => if c == '\n' then skipWhile isGapOrEnd else malformed

/-- The characters that an escape stands for, after its backslash. -/
def escape (lines : Bool) : Scan (List Char) := do
  match ← get with
  | [] => malformed
  | c :: cs =>
    if lines && isGapOrEnd c then
      lineContinuation
      return []
    set cs
    if c == 'u' then return [← hexEscape 4]
    else if c == 'U' then return [← hexEscape 8]
    else return [← orMalformed (shortEscape? c)]

/-- The quotes that end a text of one line or of several lines. -/
def closing (lines : Bool) (quote : Char) : List Char :=
  if lines then [quote, quote, quote] else [quote]

/-- Read a text with escapes up to its closing quotes. -/
def basicText (lines : Bool) : Nat → Scan (List Char)
  | 0 => malformed
  | n + 1 => do
    -- The closing quotes come first: three in a text of several lines, one in any other.
    if ← skip? (closing lines '"') then return []
    match ← get with
    | [] => malformed
    | c :: cs =>
      if c == '\\' then
        set cs
        let front ← escape lines
        return front ++ (← basicText lines n)
      else if if lines then isControlInLines c else isControl c then malformed
      else
        set cs
        return c :: (← basicText lines n)

/-- Read a text without escapes up to its closing quotes. -/
def literalText (lines : Bool) : Nat → Scan (List Char)
  | 0 => malformed
  | n + 1 => do
    if ← skip? (closing lines '\x27') then return []
    match ← get with
    | [] => malformed
    | c :: cs =>
      if if lines then isControlInLines c else isControl c then malformed
      else
        set cs
        return c :: (← literalText lines n)

/-- Read a text up to its closing quotes. -/
def textBody (lines : Bool) (quote : Char) : Scan (List Char) := do
  let fuel := (← get).length + 1
  if quote == '"' then basicText lines fuel else literalText lines fuel

/-- Read at most two quotes that belong to a text of several lines though they follow its closing
ones. -/
def extraQuotes (quote : Char) : Scan (List Char) := do
  if ← skip? [quote] then
    if ← skip? [quote] then return [quote, quote] else return [quote]
  else return []

/-- Read a text in quotes on one line. -/
def lineText (quote : Char) : Scan String := do
  skip [quote]
  return String.ofList (← textBody false quote)

/-- Read a text in quotes, on one line or on several ones. -/
def quotedText (quote : Char) : Scan String := do
  if ← skip? (closing true quote) then
    let _ ← skip? ['\n']
    let body ← textBody true quote
    return String.ofList (body ++ (← extraQuotes quote))
  else lineText quote

/-! ## Keys -/

/-- Whether `c` may stand in a key without quotes. -/
def isBareKeyChar (c : Char) : Bool :=
  c.isAlphanum || c == '-' || c == '_'

/-- One part of a key. -/
def keyPart : Scan String := do
  match (← get).head? with
  | some c =>
    if isBareKeyChar c then return String.ofList (← takeWhile isBareKeyChar)
    else if c == '"' || c == '\x27' then lineText c
    else malformed
  | none => malformed

/-- The parts of a key behind the first one. -/
def keyParts : Nat → Scan (List String)
  | 0 => malformed
  | n + 1 => do
    skipGap
    if ← skip? ['.'] then
      skipGap
      let part ← keyPart
      return part :: (← keyParts n)
    else return []

/-- A key: parts with points between them. -/
def key : Scan (List String) := do
  let first ← keyPart
  return first :: (← keyParts ((← get).length + 1))

end SearchQuery.Toml
