import SearchQuery.Search.Builder
import SearchQuery.Text.Blank
import SearchQuery.Text.Identifier
import SearchQuery.Text.Normal
import SearchQuery.Value.Order

/-!
# Expressions of callbacks

A callback may be an expression. This module reads expressions, and tells what they do: constants, the
search itself, what it has under a name, calls of its methods and operations, assignments and look-ups
by the functions that every expression knows for them, comparisons, and choices. What it does not know
it takes for malformed; a callback can be given with the code of any other expression instead.

## Shape of the text

The expression takes up one line, which may be continued inside parentheses. Lines that are blank
but for a comment may stand around it. It may be preceded by blanks only at the very front of the
text; a line that is indented otherwise is a defect of its own. Names are used in their normal form.

## Shape of the reader

A text is cut into tokens, and the tokens are read from the front, by one reader for each level of
precedence. Every level is given a bound on the number of steps, which the number of tokens makes up for.
-/

namespace SearchQuery

/-! ## Trees -/

/-- What two values are compared for. -/
inductive Comparison where
  | equal
  | unequal
  | less
  | lessOrEqual
  | greater
  | greaterOrEqual
  | same
  | notSame
  | within
  | notWithin
  deriving DecidableEq, Inhabited

/-- An expression of a callback. -/
inductive Expression where
  | constant (v : Value)
  | search
  | name (s : String)
  | attribute (name : String)
  | call (method : String) (arguments : List Expression)
  | assign (name : String) (e : Expression)
  | lookup (name : String) (default : Expression)
  | has (name : String)
  | truth (e : Expression)
  | negation (e : Expression)
  | both (left right : Expression)
  | either (left right : Expression)
  | compare (c : Comparison) (left right : Expression)
  | choice (test yes no : Expression)
  deriving Inhabited

/-- Why a text is no expression. -/
inductive ExpressionDefect where
  | malformed
  | indented
  deriving DecidableEq, Inhabited

namespace Expression

/-! ## Lines -/

/-- Whether `c` is a blank at the front of a text. -/
def isGap (c : Char) : Bool :=
  c == ' ' || c == '\t'

/-- A text with one kind of line end. -/
def withLineFeeds : List Char → List Char
  | '\r' :: '\n' :: cs => '\n' :: withLineFeeds cs
  | '\r' :: cs => '\n' :: withLineFeeds cs
  | c :: cs => c :: withLineFeeds cs
  | [] => []

/-- The column of the first character of a line that is no blank, and the line from there on. A form
feed starts the line anew. -/
def indentation (column : Nat) : List Char → Nat × List Char
  | ' ' :: cs => indentation (column + 1) cs
  | '\t' :: cs => indentation (8 * (column / 8 + 1)) cs
  | '\x0c' :: cs => indentation 0 cs
  | cs => (column, cs)

/-- Skip blank lines, at most `n`, up to one that is not blank and not indented. -/
def skipBlankLines : Nat → List Char → Except ExpressionDefect (List Char)
  | 0, cs => .ok cs
  | n + 1, cs =>
    let (column, rest) := indentation 0 cs
    match rest with
    | '#' :: comment => skipBlankLines n ((comment.dropWhile (· != '\n')).drop 1)
    | '\n' :: lines => skipBlankLines n lines
    | line => if column == 0 then .ok line else .error .indented

/-! ## Tokens -/

/-- A part of an expression. -/
inductive Token where
  | word (s : String)
  | text (s : String)
  | number (n : Nat)
  | symbol (s : String)
  deriving DecidableEq, Inhabited

/-- Whether `c` may be part of a word as far as its sort goes. -/
def isWordPart (c : Char) : Bool :=
  c.isAlphanum || c == '_' || decide (127 < c.toNat)

/-- The token of a run of word characters. A number does not start with zero, but for zero. -/
def wordToken? (cs : List Char) : Option Token :=
  if cs.all Char.isDigit then
    if cs.head? != some '0' || cs.all (· == '0') then
      some (.number (cs.foldl (fun n d => 10 * n + (d.toNat - 48)) 0))
    else none
  else if Text.isIdentifierChars cs then some (.word (String.ofList cs))
  else none

/-- The symbols of two characters. -/
def longSymbols : List (List Char) :=
  [['=', '='], ['!', '='], ['<', '='], ['>', '=']]

/-- The symbols of one character, parentheses apart. -/
def shortSymbols : List Char :=
  ['.', ',', '=', '<', '>', '-']

/-- The tokens of a line, and the lines behind it. `depth` counts the parentheses that are open;
inside them the line goes on. At most `n` parts are read. -/
def tokens? : Nat → Nat → List Char → Option (List Token × List Char)
  | 0, _, _ => none
  | _ + 1, depth, [] => if depth == 0 then some ([], []) else none
  | n + 1, depth, c :: cs =>
    let followedBy (t : Token) (depth : Nat) (rest : List Char) :
        Option (List Token × List Char) :=
      (tokens? n depth rest).map fun (ts, lines) => (t :: ts, lines)
    if isGap c || c == '\x0c' then tokens? n depth cs
    else if c == '#' then tokens? n depth (cs.dropWhile (· != '\n'))
    -- A line ends the expression, but in parentheses it is a blank.
    else if c == '\n' then if depth == 0 then some ([], cs) else tokens? n depth cs
    else if c == '(' then followedBy (.symbol "(") (depth + 1) cs
    else if c == ')' then if depth == 0 then none else followedBy (.symbol ")") (depth - 1) cs
    else if longSymbols.contains ((c :: cs).take 2) then
      followedBy (.symbol (String.ofList ((c :: cs).take 2))) depth (cs.drop 1)
    else if shortSymbols.contains c then followedBy (.symbol (String.ofList [c])) depth cs
    else if c == '\x27' || c == '"' then
      let inside := cs.takeWhile (· != c)
      -- A literal that is not closed, or has escapes or lines, is not read.
      if inside.length == cs.length || inside.contains '\\' || inside.contains '\n' then none
      else followedBy (.text (String.ofList inside)) depth (cs.drop (inside.length + 1))
    else if isWordPart c then
      match wordToken? ((c :: cs).takeWhile isWordPart) with
      | some t => followedBy t depth (cs.dropWhile isWordPart)
      | none => none
    else none

/-! ## Reading -/

/-- Words that are no names. -/
def keywords : List String := [
  "False", "None", "True", "and", "as", "assert", "async", "await", "break", "class", "continue",
  "def", "del", "elif", "else", "except", "finally", "for", "from", "global", "if", "import", "in",
  "is", "lambda", "nonlocal", "not", "or", "pass", "raise", "return", "try", "while", "with",
  "yield"]

/-- The constant that a word stands for. -/
def constant? : String → Option Value
  | "True" => some (.bool true)
  | "False" => some (.bool false)
  | "None" => some .null
  | _ => none

/-- The comparison that tokens start with. -/
def comparison? : List Token → Option (Comparison × List Token)
  | .symbol "==" :: ts => some (.equal, ts)
  | .symbol "!=" :: ts => some (.unequal, ts)
  | .symbol "<" :: ts => some (.less, ts)
  | .symbol "<=" :: ts => some (.lessOrEqual, ts)
  | .symbol ">" :: ts => some (.greater, ts)
  | .symbol ">=" :: ts => some (.greaterOrEqual, ts)
  | .word "is" :: .word "not" :: ts => some (.notSame, ts)
  | .word "is" :: ts => some (.same, ts)
  | .word "in" :: ts => some (.within, ts)
  | .word "not" :: .word "in" :: ts => some (.notWithin, ts)
  | _ => none

/-- Whether all that is known of what an expression stands for is that it counts as true. -/
def isOpaque : Expression → Bool
  | search | name _ => true
  | _ => false

/-- Whether two expressions can be compared. That two are the same thing can only be told where one
of them is a truth value or nothing. -/
def comparable : Comparison → Expression → Expression → Bool
  | .same, left, .constant (.bool _) | .same, left, .constant .null
  | .notSame, left, .constant (.bool _) | .notSame, left, .constant .null => !left.isOpaque
  | .same, _, _ | .notSame, _, _ => false
  | _, left, right => !left.isOpaque && !right.isOpaque

/-- The name of the argument of an operation that has one. -/
def parameter? : String → Option String
  | "ignore" | "ignored" | "truthy" | "find_options_for" => some "name"
  | "set_attributes" => some "attributes"
  | _ => none

/-- The call of a function that gets the search and the name of one of its attributes. -/
def accessOf? (function name : String) : List Expression → Option Expression
  | [] =>
    match function with
    | "hasattr" => some (.has name)
    | "getattr" => some (.attribute name)
    | _ => none
  | [e] =>
    match function with
    | "setattr" => some (.assign name e)
    | "getattr" => some (.lookup name e)
    | _ => none
  | _ => none

mutual

/-- Read an expression from the front of tokens, in at most `n` steps. -/
def parse? : Nat → List Token → Option (Expression × List Token)
  | 0, _ => none
  | n + 1, ts => do
    let (yes, ts) ← disjunction? n ts
    match ts with
    | .word "if" :: ts =>
      let (test, ts) ← disjunction? n ts
      match ts with
      | .word "else" :: ts =>
        let (no, ts) ← parse? n ts
        return (.choice test yes no, ts)
      | _ => none
    | ts => return (yes, ts)

/-- Read expressions of which one has to count as true. -/
def disjunction? : Nat → List Token → Option (Expression × List Token)
  | 0, _ => none
  | n + 1, ts => do
    let (left, ts) ← conjunction? n ts
    match ts with
    | .word "or" :: ts =>
      let (right, ts) ← disjunction? n ts
      return (.either left right, ts)
    | ts => return (left, ts)

/-- Read expressions that all have to count as true. -/
def conjunction? : Nat → List Token → Option (Expression × List Token)
  | 0, _ => none
  | n + 1, ts => do
    let (left, ts) ← inversion? n ts
    match ts with
    | .word "and" :: ts =>
      let (right, ts) ← conjunction? n ts
      return (.both left right, ts)
    | ts => return (left, ts)

/-- Read a negation or a comparison. -/
def inversion? : Nat → List Token → Option (Expression × List Token)
  | 0, _ => none
  | n + 1, .word "not" :: ts => do
    let (e, ts) ← inversion? n ts
    return (.negation e, ts)
  | n + 1, ts => do
    let (left, ts) ← operand? n ts
    match comparison? ts with
    | none => return (left, ts)
    | some (c, ts) =>
      let (right, ts) ← operand? n ts
      -- Chains of comparisons are not read.
      if comparable c left right && (comparison? ts).isNone then return (.compare c left right, ts)
      else none

/-- Read what can be compared. -/
def operand? : Nat → List Token → Option (Expression × List Token)
  | 0, _ => none
  | _ + 1, .number k :: ts => some (.constant (.int k), ts)
  | _ + 1, .symbol "-" :: .number k :: ts => some (.constant (.int (-k)), ts)
  | _ + 1, .text s :: ts => some (.constant (.text s), ts)
  | n + 1, .symbol "(" :: ts => do
    let (e, ts) ← parse? n ts
    match ts with
    | .symbol ")" :: ts => return (e, ts)
    | _ => none
  | n + 1, .word w :: ts =>
    match constant? w with
    | some v => some (.constant v, ts)
    | none =>
      if keywords.contains w then none
      else if Text.normalForm w == "self" then behindSearch? n ts
      else behindName? n (Text.normalForm w) ts
  | _, _ => none

/-- What stands behind the search: nothing, the name of one of its attributes, or a call. -/
def behindSearch? : Nat → List Token → Option (Expression × List Token)
  | 0, _ => none
  | n + 1, .symbol "." :: .word w :: ts =>
    if keywords.contains w then none
    else
      let name := Text.normalForm w
      match ts with
      | .symbol "(" :: .word parameter :: .symbol "=" :: ts =>
        -- The only named argument is that of the operation's one parameter.
        if parameter? name != some (Text.normalForm parameter) then none
        else do
          let (arguments, ts) ← arguments? n ts
          if arguments.length != 1 then none else return (.call name arguments, ts)
      | .symbol "(" :: ts => do
        let (arguments, ts) ← arguments? n ts
        return (.call name arguments, ts)
      | ts => some (.attribute name, ts)
  | _ + 1, .symbol "." :: _ => none
  | _ + 1, ts => some (.search, ts)

/-- What stands behind another name: nothing, or the arguments of a function that every expression
knows. -/
def behindName? : Nat → String → List Token → Option (Expression × List Token)
  | 0, _, _ => none
  | n + 1, function, .symbol "(" :: ts => do
    let (arguments, ts) ← arguments? n ts
    match function, arguments with
    | "bool", [e] => return (.truth e, ts)
    | function, .search :: .constant (.text key) :: arguments =>
      return (← accessOf? function key arguments, ts)
    | _, _ => none
  | _ + 1, function, ts => some (.name function, ts)

/-- Read arguments up to the parenthesis behind them. -/
def arguments? : Nat → List Token → Option (List Expression × List Token)
  | 0, _ => none
  | _ + 1, .symbol ")" :: ts => some ([], ts)
  | n + 1, ts => do
    let (e, ts) ← parse? n ts
    match ts with
    | .symbol "," :: ts =>
      let (es, ts) ← arguments? n ts
      return (e :: es, ts)
    | .symbol ")" :: ts => return ([e], ts)
    | _ => none

end

/-- Read an expression. -/
def ofText (s : String) : Except ExpressionDefect Expression := do
  let cs := withLineFeeds (s.toList.dropWhile isGap)
  let cs ← skipBlankLines (cs.length + 1) cs
  match tokens? (cs.length + 1) 0 cs with
  | none => throw .malformed
  | some (ts, lines) =>
    match parse? (8 * (ts.length + 1)) ts with
    | some (e, []) =>
      if (← skipBlankLines (lines.length + 1) lines).isEmpty then return e else throw .malformed
    | _ => throw .malformed

/-! ## Names that every expression knows -/

/-- Names that stand for something in every expression. -/
def commonNames : List String := [
  "Ellipsis", "Exception", "NotImplemented", "abs", "aiter", "all", "anext", "any", "ascii",
  "bin", "bool", "breakpoint", "bytearray", "bytes", "callable", "chr", "classmethod",
  "compile", "complex", "delattr", "dict", "dir", "divmod", "enumerate", "eval", "exec", "exit",
  "filter", "float", "format", "frozenset", "getattr", "globals", "hasattr", "hash", "help",
  "hex", "id", "input", "int", "isinstance", "issubclass", "iter", "len", "list", "locals",
  "map", "max", "memoryview", "min", "next", "object", "oct", "open", "ord", "pow", "print",
  "property", "quit", "range", "repr", "reversed", "round", "set", "setattr", "slice", "sorted",
  "staticmethod", "str", "sum", "super", "tuple", "type", "vars", "zip"]

/-- The value of a name that every expression knows. All that matters of most of them is that they
count as true. -/
def commonValue? (name : String) : Option Value :=
  match constant? name with
  | some v => some v
  | none => if commonNames.contains name then some (.bool true) else none

end Expression

/-! ## What an expression does -/

/-- Why a text that is no expression cannot be a callback. -/
def Failure.ofExpression : ExpressionDefect → Failure
  | .malformed => .badExpression
  | .indented => .badIndentation

namespace Comparison

/-- The answer of a comparison that may have none. -/
def answered : Option Bool → Except Failure Bool
  | some b => .ok b
  | none => .error .badDecimal

/-- Whether a value is among the members of another one, or a text in another one. -/
def isWithin (v : Value) : Value → Except Failure Bool
  | .text t =>
    match v with
    | .text s => .ok (s.isEmpty || (t.splitOn s).length != 1)
    | _ => .error .wrongType
  | w =>
    match w.items? with
    | some items => answered (Value.anyPasses (Value.same? v) items)
    | none => .error .wrongType

/-- Whether a value is not greater than another one. -/
def isAtMost (v w : Value) : Except Failure Bool := do
  if ← v.less w then return true else answered (v.same? w)

/-- Whether a value is a truth value or nothing, and the same one as the other. -/
def isSame : Value → Value → Bool
  | .null, .null => true
  | .bool b, .bool b' => b == b'
  | _, _ => false

/-- Compare two values. -/
def holds : Comparison → Value → Value → Except Failure Bool
  | equal, v, w => answered (v.same? w)
  | unequal, v, w => (answered (v.same? w)).map (!·)
  | less, v, w => v.less w
  | greater, v, w => w.less v
  | lessOrEqual, v, w => isAtMost v w
  | greaterOrEqual, v, w => isAtMost w v
  | same, v, w => .ok (isSame v w)
  | notSame, v, w => .ok !isSame v w
  | within, v, w => isWithin v w
  | notWithin, v, w => (isWithin v w).map (!·)

end Comparison

namespace Script

/-- Code that fails. -/
def fail (e : Failure) : Script :=
  .hook (.fail e) .done

/-- Code that goes on with a result, or fails. -/
def ofResult {α : Type} (next : α → Script) : Except Failure α → Script
  | .ok a => next a
  | .error e => fail e

end Script

namespace Expression

mutual

/-- What an expression does, and what is done with its value then. The search itself counts as true. -/
def scriptThen : Expression → (Value → Script) → Script
  | constant v, next => next v
  | search, next => next (.bool true)
  | name s, next =>
    match commonValue? s with
    | some v => next v
    | none => .fail .unknownName
  | «attribute» key, next => .hook (.read key .done) next
  | call method [], next => .call method [] next
  | call method (e :: es), next =>
    -- What is called is looked up before its arguments are.
    .look method fun
      | some _ => argumentsThen (e :: es) fun vs => .call method vs next
      | none => .fail .noAttribute
  | assign key e, next => scriptThen e fun v => .hook (.write key v (.done .null)) next
  | lookup key default, next => scriptThen default fun w => .look key fun found => next (found.getD w)
  | has key, next => .look key fun found => next (.bool found.isSome)
  | truth e, next => scriptThen e fun v => next (.bool v.truthy)
  | negation e, next => scriptThen e fun v => next (.bool !v.truthy)
  | both left right, next => scriptThen left fun v => if v.truthy then scriptThen right next else next v
  | either left right, next => scriptThen left fun v => if v.truthy then next v else scriptThen right next
  | compare c left right, next =>
    scriptThen left fun v => scriptThen right fun w => .ofResult (fun b => next (.bool b)) (c.holds v w)
  | choice test yes no, next =>
    scriptThen test fun v => if v.truthy then scriptThen yes next else scriptThen no next

/-- What expressions do one after the other, and what is done with their values then. -/
def argumentsThen : List Expression → (List Value → Script) → Script
  | [], next => next []
  | e :: es, next => scriptThen e fun v => argumentsThen es fun vs => next (v :: vs)

end

/-- What the expression of a text does. A text that is none lets its callback fail. -/
def script (s : String) : Script :=
  match ofText s with
  | .ok e => e.scriptThen .done
  | .error defect => .fail (.ofExpression defect)

end Expression

end SearchQuery
