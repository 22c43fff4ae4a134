import SearchQuery.Failure
import SearchQuery.Number.Shortest

/-!
# Writing JSON

Values are written in JSON on several lines, with two blanks of indentation for every level.
Everything but plain text characters is escaped. A value that the format has no form for is
written as its text.

## Shape of the keys

The names of members are texts. A number, a truth value or `null` as a key is written as the text
it has in the format; any other key is refused.
-/

namespace SearchQuery.JsonText

/-- An escape with four hexadecimal digits. -/
def hexEscaped (n : Nat) : List Char :=
  '\\' :: 'u' :: Text.hexDigits 4 n

/-- A character in double quotes. Characters beyond the first plane are written in two halves. -/
def writtenChar (c : Char) : List Char :=
  match c with
  | '"' => ['\\', '"']
  | '\\' => ['\\', '\\']
  | '\n' => ['\\', 'n']
  | '\r' => ['\\', 'r']
  | '\t' => ['\\', 't']
  | '\x0c' => ['\\', 'f']
  | '\x08' => ['\\', 'b']
  | c =>
    let n := c.toNat
    if 32 ≤ n ∧ n ≤ 126 then [c]
    else if n < 0x10000 then hexEscaped n
    else
      -- Behind the basic plane a character is written as a pair of surrogates.
      let m := n - 0x10000
      hexEscaped (0xd800 + m / 0x400) ++ hexEscaped (0xdc00 + m % 0x400)

/-- A text in double quotes. -/
def writtenText (s : String) : String :=
  String.ofList ('"' :: s.toList.flatMap writtenChar ++ ['"'])

/-- A floating-point number. -/
def writtenFloat : Binary64 → String
  | .nan _ => "NaN"
  | .infinity negative => if negative then "-Infinity" else "Infinity"
  | x => x.text

/-- The name of a member. -/
def nameOf : Value → Except Failure String
  | .text s => .ok s
  | .null => .ok "null"
  | .bool b => .ok (if b then "true" else "false")
  | .int n => .ok (toString n)
  | .float x => .ok (writtenFloat x)
  | _ => .error .wrongType

/-- Parts between brackets, each on a line of its own. -/
def bracketed (opening closing : String) (depth : Nat) (parts : List String) : String :=
  if parts.isEmpty then opening ++ closing
  else
    let newline (k : Nat) : String := "\n" ++ String.ofList (List.replicate (2 * k) ' ')
    opening ++ newline (depth + 1) ++ ("," ++ newline (depth + 1)).intercalate parts ++
      newline depth ++ closing

mutual

/-- A value at a level of indentation. -/
def written (depth : Nat) : Value → Except Failure String
  | .null => .ok "null"
  | .bool b => .ok (if b then "true" else "false")
  | .int n => .ok (toString n)
  | .float x => .ok (writtenFloat x)
  | .text s => .ok (writtenText s)
  | .list items | .tuple items => (writtenItems (depth + 1) items).map (bracketed "[" "]" depth)
  | .dict entries =>
    (writtenEntries (depth + 1) entries).map (bracketed "\x7b" "\x7d" depth)
  | v => .ok (writtenText v.display)

/-- The elements of an array. -/
def writtenItems (depth : Nat) : List Value → Except Failure (List String)
  | [] => .ok []
  | v :: vs => do return (← written depth v) :: (← writtenItems depth vs)

/-- The members of an object. -/
def writtenEntries (depth : Nat) : List (Value × Value) → Except Failure (List String)
  | [] => .ok []
  | e :: es => do return (← writtenEntry depth e) :: (← writtenEntries depth es)

/-- One member of an object. -/
def writtenEntry (depth : Nat) : Value × Value → Except Failure String
  | (k, v) => do return writtenText (← nameOf k) ++ ": " ++ (← written depth v)

end

/-- Write a value. -/
def text (v : Value) : Except Failure String :=
  written 0 v

end SearchQuery.JsonText
