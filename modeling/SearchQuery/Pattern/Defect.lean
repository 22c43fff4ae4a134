import SearchQuery.Text.Quoted

/-!
# Defects of patterns

What can be wrong with the text of a pattern. Most defects are blamed on a position in the text, and are
reported as errors of the pattern. A few are failures of the operations that reading a pattern is made of;
those are not errors of patterns, and who asks for the errors of a pattern does not learn of them.
-/

namespace SearchQuery

/-- What can be wrong with the text of a pattern. -/
inductive PatternDefect where
  | unterminatedGroup
  | unterminatedComment
  | unterminatedSet
  | unterminatedName (terminator : Char)
  | nothingToRepeat
  | multipleRepeat
  | unbalancedParenthesis
  | escapeAtEnd
  | badEscape (text : String)
  | incompleteEscape (text : String)
  | octalOutOfRange (text : String)
  | missing (what : String)
  | unknownCharacter (name : String)
  | groupReference (number : Nat)
  | openGroup
  | lookbehindGroup
  | badGroupName (name : String)
  | unknownGroup (name : String)
  | repeatedGroup (name : String) (number earlier : Nat)
  | groupNumber
  | tooManyBranches
  | badRange (first last : String)
  | repeatBounds
  | unknownExtension (text : String)
  | unknownFlag
  | misplacedFlags
  | badFlags (detail : String)
  | endOfPattern
  | templateRepeat (operator : String)
  | lookbehindTooLong
  | lookbehindWidth
  | countTooLarge
  | countTooLong
  | codeTooLarge
  | clashingFlags
  | tooDeep
  deriving DecidableEq, Inhabited

namespace PatternDefect

/-- Whether a defect is reported as an error of the pattern. -/
def isReported : PatternDefect → Bool
  | countTooLarge | countTooLong | codeTooLarge | clashingFlags | tooDeep => false
  | _ => true

/-- The wording of a defect. -/
def wording : PatternDefect → String
  | unterminatedGroup => "missing ), unterminated subpattern"
  | unterminatedComment => "missing ), unterminated comment"
  | unterminatedSet => "unterminated character set"
  | unterminatedName terminator => "missing " ++ terminator.toString ++ ", unterminated name"
  | nothingToRepeat => "nothing to repeat"
  | multipleRepeat => "multiple repeat"
  | unbalancedParenthesis => "unbalanced parenthesis"
  | escapeAtEnd => "bad escape (end of pattern)"
  | badEscape text => "bad escape " ++ text
  | incompleteEscape text => "incomplete escape " ++ text
  | octalOutOfRange text => "octal escape value " ++ text ++ " outside of range 0-0o377"
  | missing what => "missing " ++ what
  | unknownCharacter name => "undefined character name " ++ Text.quoted name
  | groupReference number => "invalid group reference " ++ toString number
  | openGroup => "cannot refer to an open group"
  | lookbehindGroup => "cannot refer to group defined in the same lookbehind subpattern"
  | badGroupName name => "bad character in group name " ++ Text.quoted name
  | unknownGroup name => "unknown group name " ++ Text.quoted name
  | repeatedGroup name number earlier =>
    "redefinition of group name " ++ Text.quoted name ++ " as group " ++ toString number ++
      "; was group " ++ toString earlier
  | groupNumber => "bad group number"
  | tooManyBranches => "conditional backref with more than two branches"
  | badRange first last => "bad character range " ++ first ++ "-" ++ last
  | repeatBounds => "min repeat greater than max repeat"
  | unknownExtension text => "unknown extension ?" ++ text
  | unknownFlag => "unknown flag"
  | misplacedFlags => "global flags not at the start of the expression"
  | badFlags detail => "bad inline flags: " ++ detail
  | endOfPattern => "unexpected end of pattern"
  | templateRepeat operator => "internal: unsupported template operator " ++ operator
  | lookbehindTooLong => "looks too much behind"
  | lookbehindWidth => "look-behind requires fixed-width pattern"
  | countTooLarge => "the repetition number is too large"
  | countTooLong => "the repetition number has too many digits"
  | codeTooLarge => "the code of a character is too large"
  | clashingFlags => "ASCII and UNICODE flags are incompatible"
  | tooDeep => "the pattern is nested too deep"

end PatternDefect

/-- A defect and where it is, if it is blamed on a position. -/
structure PatternError where
  defect : PatternDefect
  position : Option Nat
  deriving DecidableEq, Inhabited

/-- The message of a defect: its wording and its position, and for a text of several lines also
the line and the column. -/
def PatternError.message (source : String) (e : PatternError) : String :=
  match e.position with
  | none => e.defect.wording
  | some position =>
    let placed := e.defect.wording ++ " at position " ++ toString position
    if source.toList.contains '\n' then
      let before := source.toList.take position
      let column := (before.reverse.takeWhile (· != '\n')).length + 1
      placed ++ " (line " ++ toString (before.count '\n' + 1) ++ ", column " ++ toString column ++ ")"
    else placed

end SearchQuery
