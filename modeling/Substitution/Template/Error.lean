import Substitution.Text.Numeral

/-!
# Malformed templates

What can be wrong with the text of a template, where, and in which words this is reported. Every
message of a `Substitution.Template.SyntaxError` ends with the position, counted in code points, and
with the whole template between quotes.
-/

namespace Substitution

namespace Template

/-- What is wrong at the place where a template stops making sense. -/
inductive SyntaxFault where
  /-- The template ends after a backslash. -/
  | trailingEscape
  /-- A backslash stands before a character that it cannot escape. -/
  | illegalEscape (char : Char)
  /-- The number of a braced reference is not followed by the closing brace. -/
  | missingBrace (number : Nat)
  /-- A dollar sign, or a dollar sign and an opening brace, is not followed by a number. -/
  | invalidReference (braced : Bool)
deriving Repr, DecidableEq

/-- A fault of a template and its place. -/
structure SyntaxError where
  template : Text
  position : Nat
  fault : SyntaxFault
deriving Repr, DecidableEq

/-- Why a text is no template. -/
inductive Error where
  /-- It does not follow the grammar. -/
  | malformed (e : SyntaxError)
  /-- A reference has a numeral with too many digits. -/
  | numberTooLong (digits : Nat)
deriving Repr, DecidableEq

/-- The words for a fault. -/
def SyntaxFault.message : SyntaxFault → Text
  | trailingEscape => "Illegal trailing backslash".toList
  | illegalEscape c =>
    "Escape can only contain backslash or dollar sign, not U+".toList ++
      Text.hexUpper 4 c.toNat ++ [' '] ++ Text.quoted [c]
  | missingBrace number =>
    "Expected closing curly brace for $\x7b".toList ++ Text.decimal number ++
      "\x7d identifier".toList
  | invalidReference true =>
    "Expected $\x7b123\x7d style numeric identifier inside $\x7b...\x7d".toList
  | invalidReference false =>
    "Expected $123 or $\x7b123\x7d style number after dollar sign".toList

/-- The message of a fault: its words, its position and the template. -/
def SyntaxError.message (e : SyntaxError) : Text :=
  e.fault.message ++ " (at position ".toList ++ Text.decimal e.position ++ " in ".toList ++
    Text.quoted e.template ++ [')']

/-- The message of a text that is no template. -/
def Error.message : Error → Text
  | malformed e => e.message
  | numberTooLong digits => Text.tooManyDigits digits

end Template

end Substitution
