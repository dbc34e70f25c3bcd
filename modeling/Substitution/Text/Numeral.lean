import Substitution.Text.Blank
import Substitution.Text.Digit
import Substitution.Text.Quoted

/-!
# Numerals

Reading integers that people write. A decimal numeral may be surrounded by blanks, may carry a sign,
may use the digits of any script and may group its digits with single underscores; a numeral in base
two, eight or sixteen may start with the mark of its base. A decimal numeral of more than
`Text.maxDigits` digits is refused, and so is writing a number that long: both would take
time that grows with the square of the length.
-/

namespace Substitution

namespace Text

/-- The greatest number of decimal digits that is converted to or from a number. -/
def maxDigits : Nat := 4300

/-- The message that refuses to read a numeral of so many digits. -/
def tooManyDigits (digits : Nat) : Text :=
  "Exceeds the limit (4300 digits) for integer string conversion: value has ".toList ++
    decimal digits ++ " digits; use sys.set_int_max_str_digits() to increase the limit".toList

/-- The message that refuses to write a number that is too long. -/
def tooLongToWrite : Text :=
  ("Exceeds the limit (4300 digits) for integer string conversion; " ++
    "use sys.set_int_max_str_digits() to increase the limit").toList

/-- Why a text is no integer numeral. -/
inductive NumeralError where
  /-- It is not of the form of a numeral. -/
  | malformed
  /-- It has too many digits. -/
  | tooLong (digits : Nat)
deriving Repr, DecidableEq

/-- The value of a digit in bases up to sixteen; decimal digits of any script count. -/
def digitIn? (base : Nat) (c : Char) : Option Nat :=
  match (digitValue? c).or (hexValue? c) with
  | some d => if d < base then some d else none
  | none => none

/-- The digits that stand at the start, single underscores between them left out, and the rest after
them. `joined` tells whether the character before was a digit, so that an underscore may follow. -/
def digitRun (base : Nat) : (joined : Bool) → Text → List Nat × Text
  | _, [] => ([], [])
  | joined, c :: rest =>
    match digitIn? base c with
    | some d =>
      let run := digitRun base true rest
      (d :: run.1, run.2)
    | none =>
      if c = '_' ∧ joined = true ∧ (rest.head?.bind (digitIn? base)).isSome then
        digitRun base false rest
      else ([], c :: rest)

/-- The number that digits spell. -/
def ofDigits (base : Nat) (digits : List Nat) : Nat :=
  digits.foldl (fun n d => base * n + d) 0

/-- The letter that marks a base after a leading zero. -/
def baseMark (base : Nat) : Option Char :=
  if base = 2 then some 'b' else if base = 8 then some 'o' else if base = 16 then some 'x' else none

/-- The text without the mark of its base, if it has it, and without one underscore after that. -/
def dropBaseMark (base : Nat) : Text → Text
  | '0' :: c :: rest =>
    if some c.toLower = baseMark base then
      match rest with
      | '_' :: digits => digits
      | _ => rest
    else '0' :: c :: rest
  | t => t

/-- The integer that a text spells in a base. -/
def readInteger (base : Nat) (t : Text) : Except NumeralError Int :=
  let body := trim t
  let negative := body.head? == some '-'
  let unsigned := if negative || body.head? == some '+' then body.drop 1 else body
  let run := digitRun base false (dropBaseMark base unsigned)
  if baseMark base == none && run.1.length > maxDigits then .error (.tooLong run.1.length)
  else if run.1.isEmpty || !run.2.isEmpty then .error .malformed
  else
    let n := ofDigits base run.1
    .ok (if negative then -(n : Int) else n)

/-- The message of an integer numeral that cannot be read. -/
def NumeralError.message (base : Nat) (t : Text) : NumeralError → Text
  | .malformed => "invalid literal for int() with base ".toList ++ decimal base ++ ": ".toList ++
      (quoted t).take 200
  | .tooLong digits => tooManyDigits digits

end Text

end Substitution
