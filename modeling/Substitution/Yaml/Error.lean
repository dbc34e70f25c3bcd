import Substitution.Number.Binary64
import Substitution.Value.Calendar

/-!
# Documents that cannot be read

A document may break the rules of the format, which is reported in one way whatever the rule. It may
also follow the rules and still hold a scalar whose text does not fit its type; such faults keep a
message of their own.
-/

namespace Substitution

namespace Yaml

/-- Why a scalar does not fit its type. -/
inductive ScalarFault where
  /-- An integer numeral cannot be read. -/
  | integer (base : Nat) (text : Text) (e : Text.NumeralError)
  /-- A decimal numeral cannot be read. -/
  | decimal (text : Text)
  /-- There is no text where a numeral should be. -/
  | emptyNumeral
  /-- A numeral in base sixty has too many places. -/
  | tooManyPlaces
  /-- A word is no truth value. -/
  | truthValue (word : Text)
  | calendar (e : CalendarError)
  /-- A text has not the form of a date or time. -/
  | notCalendar
  /-- A collection stands where a date or time should. -/
  | collectionAsCalendar
  /-- An escape names a code point that is too great. -/
  | codePoint
  /-- An escape names a code point that is not even representable. -/
  | hugeCodePoint
deriving Repr, DecidableEq

/-- Why a document cannot be read. -/
inductive Error where
  /-- It breaks the rules of the format. -/
  | malformed
  /-- A scalar does not fit its type. -/
  | scalar (fault : ScalarFault)
deriving Repr, DecidableEq

/-- The message of a scalar that does not fit its type. -/
def ScalarFault.message : ScalarFault → Text
  | integer base text e => e.message base text
  | decimal text => "could not convert string to float: ".toList ++ Text.quoted text
  | emptyNumeral => "string index out of range".toList
  | tooManyPlaces => "int too large to convert to float".toList
  | truthValue word => Text.quoted word
  | calendar e => e.message
  | notCalendar => "'NoneType' object has no attribute 'groupdict'".toList
  | collectionAsCalendar => "expected string or bytes-like object, got 'list'".toList
  | codePoint => "chr() arg not in range(0x110000)".toList
  | hugeCodePoint => "Python int too large to convert to C int".toList

end Yaml

end Substitution
