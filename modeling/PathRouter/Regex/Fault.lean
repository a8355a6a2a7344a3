import PathRouter.Limit
import PathRouter.Text.Quoted

/-!
# Why an expression cannot be read

Each way in which the text of an expression can be malformed is a cause of its
own.  A malformed text is reported with the place where it goes wrong, counted
in characters, and also by line and column when the text has several lines.

A text may also exceed a limit, which is no fault of its form.
-/

namespace PathRouter
namespace Regex

/-- A way in which the text of an expression is malformed. -/
inductive Cause where
  /-- The text ends in a backslash that escapes nothing. -/
  | endsInBackslash
  /-- A character set is not closed. -/
  | unterminatedSet
  /-- A range has no code point on one side, or its ends are out of order. -/
  | badRange (first last : String)
  /-- A numeric escape has too few digits. -/
  | incompleteEscape (text : String)
  /-- An escape has no meaning. -/
  | badEscape (text : String)
  /-- An octal escape is beyond one byte. -/
  | octalTooLarge (text : String)
  /-- A character name does not stand in braces. -/
  | missingBrace
  /-- A name is empty or missing. -/
  | missingName (what : String)
  /-- A name is not closed. -/
  | unterminatedName (terminator : Char)
  /-- No character has the name. -/
  | undefinedCharacter (name : String)
  /-- A group is referred to before it is closed. -/
  | openGroup
  /-- A group is referred to in the expression behind a place that defines
  it. -/
  | groupBehind
  /-- No group has the number. -/
  | unknownReference (index : Nat)
  /-- The least count of a repetition is above the greatest. -/
  | crossedCounts
  /-- A repetition follows nothing that can be repeated. -/
  | nothingToRepeat
  /-- A repetition follows a repetition. -/
  | multipleRepeat
  /-- The text ends inside the opening of a group. -/
  | unexpectedEnd
  /-- A group name is no identifier. -/
  | badName (name : String)
  /-- A group name is used again. -/
  | redefinedName (name : String) (index earlier : Nat)
  /-- No group has the name. -/
  | unknownName (name : String)
  /-- The opening of a group has no meaning. -/
  | unknownExtension (text : String)
  /-- A comment is not closed. -/
  | unterminatedComment
  /-- A condition refers to group zero. -/
  | badGroupNumber
  /-- A condition has more than two branches. -/
  | tooManyBranches
  /-- A group is not closed. -/
  | unterminatedGroup
  /-- A closing bracket closes nothing. -/
  | unbalancedBracket
  /-- Flags for the whole expression do not stand at its start. -/
  | misplacedFlags
  /-- The flag for locale rules, which texts do not have. -/
  | localeFlag
  /-- Two flags that choose different character rules. -/
  | clashingFlags
  /-- The flags are not followed by what may follow them. -/
  | unfinishedFlags
  /-- A letter is no flag. -/
  | unknownFlag
  /-- A flag for the whole expression is turned on for a part of it. -/
  | globalFlagOn
  /-- No flag follows the sign that turns flags off. -/
  | missingFlag
  /-- A flag that chooses character rules is turned off. -/
  | ruleFlagOff
  /-- The flags that are turned off are not followed by a colon. -/
  | missingColon
  /-- A flag for the whole expression is turned off for a part of it. -/
  | globalFlagOff
  /-- A flag is turned on and off. -/
  | flagOnAndOff
  /-- What is looked for behind a place is longer than can be counted. -/
  | farBehind
  /-- What is looked for behind a place has no fixed length. -/
  | variableBehind
deriving DecidableEq, Repr

/-- The wording of each cause. -/
def Cause.message : Cause → String
  | endsInBackslash => "bad escape (end of pattern)"
  | unterminatedSet => "unterminated character set"
  | badRange first last => "bad character range " ++ first ++ "-" ++ last
  | incompleteEscape text => "incomplete escape " ++ text
  | badEscape text => "bad escape " ++ text
  | octalTooLarge text =>
      "octal escape value " ++ text ++ " outside of range 0-0o377"
  | missingBrace => "missing \x7b"
  | missingName what => "missing " ++ what
  | unterminatedName terminator =>
      "missing " ++ String.ofList [terminator] ++ ", unterminated name"
  | undefinedCharacter name =>
      "undefined character name " ++ Text.quoted name
  | openGroup => "cannot refer to an open group"
  | groupBehind =>
      "cannot refer to group defined in the same lookbehind subpattern"
  | unknownReference index => "invalid group reference " ++ toString index
  | crossedCounts => "min repeat greater than max repeat"
  | nothingToRepeat => "nothing to repeat"
  | multipleRepeat => "multiple repeat"
  | unexpectedEnd => "unexpected end of pattern"
  | badName name => "bad character in group name " ++ Text.quoted name
  | redefinedName name index earlier =>
      "redefinition of group name " ++ Text.quoted name ++ " as group " ++
        toString index ++ "; was group " ++ toString earlier
  | unknownName name => "unknown group name " ++ Text.quoted name
  | unknownExtension text => "unknown extension " ++ text
  | unterminatedComment => "missing ), unterminated comment"
  | badGroupNumber => "bad group number"
  | tooManyBranches => "conditional backref with more than two branches"
  | unterminatedGroup => "missing ), unterminated subpattern"
  | unbalancedBracket => "unbalanced parenthesis"
  | misplacedFlags => "global flags not at the start of the expression"
  | localeFlag => "bad inline flags: cannot use 'L' flag with a str pattern"
  | clashingFlags =>
      "bad inline flags: flags 'a', 'u' and 'L' are incompatible"
  | unfinishedFlags => "missing -, : or )"
  | unknownFlag => "unknown flag"
  | globalFlagOn => "bad inline flags: cannot turn on global flag"
  | missingFlag => "missing flag"
  | ruleFlagOff =>
      "bad inline flags: cannot turn off flags 'a', 'u' and 'L'"
  | missingColon => "missing :"
  | globalFlagOff => "bad inline flags: cannot turn off global flag"
  | flagOnAndOff => "bad inline flags: flag turned on and off"
  | farBehind => "looks too much behind"
  | variableBehind => "look-behind requires fixed-width pattern"

/-- Why an expression cannot be read. -/
inductive Fault where
  /-- The text is malformed, mostly at a known place. -/
  | malformed (cause : Cause) (position : Option Nat)
  /-- The text exceeds a limit. -/
  | limit (exceeded : Limit)
deriving DecidableEq, Repr

namespace Fault

/-- The wording of a fault in the expression `source`. -/
def message (source : String) : Fault → String
  | malformed cause none => cause.message
  | malformed cause (some position) =>
      let place := cause.message ++ " at position " ++ toString position
      if source.toList.contains '\n' then
        let (line, column) := Text.lineAndColumn source.toList position
        place ++ " (line " ++ toString line ++ ", column " ++
          toString column ++ ")"
      else place
  | limit exceeded => exceeded.message

end Fault
end Regex
end PathRouter
