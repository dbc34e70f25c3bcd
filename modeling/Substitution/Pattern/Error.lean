import Substitution.Text.Numeral

/-!
# Malformed patterns

What can be wrong with the text of a pattern, where, and in which words this is reported. The
message of a fault that has a place ends with its position, and in a pattern of several lines also
with its line and column.

Three errors stand apart: a repetition count that is too large, and two combinations of flags that
no pattern can have.
-/

namespace Substitution

/-- What is wrong at some place of a pattern. -/
inductive PatternFault where
  /-- The pattern ends after a backslash. -/
  | danglingBackslash
  | badEscape (escape : Text)
  | incompleteEscape (escape : Text)
  | octalTooLarge (escape : Text)
  /-- The name of a character is not in braces. -/
  | missingBrace
  /-- A name is empty; `what` says of what kind it would be. -/
  | missingName (what : Text)
  | unterminatedName (terminator : Char)
  | unknownCharacter (name : Text)
  | openGroup
  | groupInsideLookbehind
  | unknownGroup (number : Nat)
  | zeroGroup
  | badGroupName (name : Text)
  | unknownGroupName (name : Text)
  | redefinedGroup (name : Text) (number earlier : Nat)
  | unterminatedSet
  | badRange (first last : Text)
  | minAboveMax
  | nothingToRepeat
  | multipleRepeat
  | unexpectedEnd
  | unknownExtension (text : Text)
  | unterminatedComment
  | unterminatedGroup
  | unbalancedParenthesis
  | tooManyBranches
  | lateFlags
  | unknownFlag
  | missingFlag
  /-- After inline flags, one of these characters is missing. -/
  | missingAfterFlags (wanted : Text)
  | localeFlag
  | incompatibleFlags
  | readingTurnedOff
  | wholePatternFlagOn
  | wholePatternFlagOff
  | flagOnAndOff
deriving Repr, DecidableEq

/-- What is wrong with a pattern as a whole. -/
inductive PatternDefect where
  | lookbehindTooWide
  | lookbehindNotFixed
  /-- A repetition where the flags refuse them. -/
  | repetition (name : Text)
deriving Repr, DecidableEq

/-- Why a text is no pattern. -/
inductive PatternError where
  /-- It does not follow the grammar at some position. -/
  | malformed (pattern : Text) (position : Nat) (fault : PatternFault)
  /-- It follows the grammar, but cannot be matched. -/
  | defective (defect : PatternDefect)
  /-- A repetition count is too large. -/
  | countTooLarge
  /-- A repetition count has too many digits. -/
  | numberTooLong (digits : Nat)
  /-- The flags ask for the reading of a locale. -/
  | localeReading
  /-- The flags ask for two readings at once. -/
  | twoReadings
deriving Repr, DecidableEq

namespace PatternFault

/-- The words for a fault. -/
def message : PatternFault → Text
  | danglingBackslash => "bad escape (end of pattern)".toList
  | badEscape escape => "bad escape ".toList ++ escape
  | incompleteEscape escape => "incomplete escape ".toList ++ escape
  | octalTooLarge escape =>
    "octal escape value ".toList ++ escape ++ " outside of range 0-0o377".toList
  | missingBrace => "missing \x7b".toList
  | missingName what => "missing ".toList ++ what
  | unterminatedName terminator => "missing ".toList ++ terminator :: ", unterminated name".toList
  | unknownCharacter name => "undefined character name ".toList ++ Text.quoted name
  | openGroup => "cannot refer to an open group".toList
  | groupInsideLookbehind =>
    "cannot refer to group defined in the same lookbehind subpattern".toList
  | unknownGroup number => "invalid group reference ".toList ++ Text.decimal number
  | zeroGroup => "bad group number".toList
  | badGroupName name => "bad character in group name ".toList ++ Text.quoted name
  | unknownGroupName name => "unknown group name ".toList ++ Text.quoted name
  | redefinedGroup name number earlier =>
    "redefinition of group name ".toList ++ Text.quoted name ++ " as group ".toList ++
      Text.decimal number ++ "; was group ".toList ++ Text.decimal earlier
  | unterminatedSet => "unterminated character set".toList
  | badRange first last => "bad character range ".toList ++ first ++ '-' :: last
  | minAboveMax => "min repeat greater than max repeat".toList
  | nothingToRepeat => "nothing to repeat".toList
  | multipleRepeat => "multiple repeat".toList
  | unexpectedEnd => "unexpected end of pattern".toList
  | unknownExtension text => "unknown extension ".toList ++ text
  | unterminatedComment => "missing ), unterminated comment".toList
  | unterminatedGroup => "missing ), unterminated subpattern".toList
  | unbalancedParenthesis => "unbalanced parenthesis".toList
  | tooManyBranches => "conditional backref with more than two branches".toList
  | lateFlags => "global flags not at the start of the expression".toList
  | unknownFlag => "unknown flag".toList
  | missingFlag => "missing flag".toList
  | missingAfterFlags wanted => "missing ".toList ++ wanted
  | localeFlag => "bad inline flags: cannot use 'L' flag with a str pattern".toList
  | incompatibleFlags => "bad inline flags: flags 'a', 'u' and 'L' are incompatible".toList
  | readingTurnedOff => "bad inline flags: cannot turn off flags 'a', 'u' and 'L'".toList
  | wholePatternFlagOn => "bad inline flags: cannot turn on global flag".toList
  | wholePatternFlagOff => "bad inline flags: cannot turn off global flag".toList
  | flagOnAndOff => "bad inline flags: flag turned on and off".toList

end PatternFault

/-- The words for a defect. -/
def PatternDefect.message : PatternDefect → Text
  | lookbehindTooWide => "looks too much behind".toList
  | lookbehindNotFixed => "look-behind requires fixed-width pattern".toList
  | repetition name => "internal: unsupported template operator ".toList ++ name

namespace PatternError

/-- The line and the column of a position, both counted from one. -/
def lineColumn (pattern : Text) (position : Nat) : Nat × Nat :=
  let before := pattern.take position
  (before.count '\n' + 1, (before.reverse.takeWhile (· != '\n')).length + 1)

/-- The message of a text that is no pattern. -/
def message : PatternError → Text
  | malformed pattern position fault =>
    fault.message ++ " at position ".toList ++ Text.decimal position ++
      if pattern.contains '\n' then
        " (line ".toList ++ Text.decimal (lineColumn pattern position).1 ++ ", column ".toList ++
          Text.decimal (lineColumn pattern position).2 ++ [')']
      else []
  | defective defect => defect.message
  | countTooLarge => "the repetition number is too large".toList
  | numberTooLong digits => Text.tooManyDigits digits
  | localeReading => "cannot use LOCALE flag with a str pattern".toList
  | twoReadings => "ASCII and UNICODE flags are incompatible".toList

end PatternError

end Substitution
