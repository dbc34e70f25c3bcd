import Substitution.Template.Error
import Substitution.Template.Token

/-!
# Reading templates

`Substitution.Template.compile` reads the text of a template. The reader walks over the characters
once and remembers in a `Substitution.Template.Reader` what it is in the middle of: nothing, an
escape, the start of a reference, or the digits of one. A character that cannot continue what was
begun is reported at its own position, and so is the end of the text, except that a trailing
backslash is reported at the backslash. Digits are taken as far as they go; how many there are is
looked at when they end, before the closing brace is.
-/

namespace Substitution

namespace Template

/-- What the reader is in the middle of. -/
inductive Reader where
  /-- Between tokens. -/
  | text
  /-- After a backslash. -/
  | escape
  /-- After a dollar sign. -/
  | dollar
  /-- After a dollar sign and an opening brace. -/
  | brace
  /-- After the first `digits` digits of a reference, whose value is `number`. -/
  | digits (braced : Bool) (number digits : Nat)
deriving Repr, DecidableEq

/-- The value of a digit that can start the number of a reference. -/
def leadingDigit? (c : Char) : Option Nat :=
  if '1' ≤ c ∧ c ≤ '9' then some (c.toNat - '0'.toNat) else none

/-- The value of an ASCII digit. -/
def digit? (c : Char) : Option Nat :=
  if '0' ≤ c ∧ c ≤ '9' then some (c.toNat - '0'.toNat) else none

/-- Reads the characters from a position on, given what the reader is in the middle of. -/
def readTokens (template : Text) : Reader → (position : Nat) → Text → Except Error (List Token)
  | .text, _, [] => .ok []
  | .text, p, c :: rest =>
    if c = '\\' then readTokens template .escape (p + 1) rest
    else if c = '$' then readTokens template .dollar (p + 1) rest
    else (readTokens template .text (p + 1) rest).map (.plain c :: ·)
  | .escape, p, [] => .error (.malformed ⟨template, p - 1, .trailingEscape⟩)
  | .escape, p, c :: rest =>
    if c = '$' ∨ c = '\\' then (readTokens template .text (p + 1) rest).map (.escaped c :: ·)
    else .error (.malformed ⟨template, p, .illegalEscape c⟩)
  | .dollar, p, [] => .error (.malformed ⟨template, p, .invalidReference false⟩)
  | .dollar, p, c :: rest =>
    if c = '{' then readTokens template .brace (p + 1) rest
    else match leadingDigit? c with
      | some d => readTokens template (.digits false d 1) (p + 1) rest
      | none => .error (.malformed ⟨template, p, .invalidReference false⟩)
  | .brace, p, [] => .error (.malformed ⟨template, p, .invalidReference true⟩)
  | .brace, p, c :: rest =>
    match leadingDigit? c with
    | some d => readTokens template (.digits true d 1) (p + 1) rest
    | none => .error (.malformed ⟨template, p, .invalidReference true⟩)
  | .digits braced n k, p, [] =>
    if k > Text.maxDigits then .error (.numberTooLong k)
    else if braced then .error (.malformed ⟨template, p, .missingBrace n⟩)
    else .ok [.reference n false]
  | .digits braced n k, p, c :: rest =>
    match digit? c with
    | some d => readTokens template (.digits braced (10 * n + d) (k + 1)) (p + 1) rest
    | none =>
      if k > Text.maxDigits then .error (.numberTooLong k)
      else if braced then
        if c = '}' then
          (readTokens template .text (p + 1) rest).map (.reference n true :: ·)
        else .error (.malformed ⟨template, p, .missingBrace n⟩)
      else if c = '\\' then
        (readTokens template .escape (p + 1) rest).map (.reference n false :: ·)
      else if c = '$' then
        (readTokens template .dollar (p + 1) rest).map (.reference n false :: ·)
      else
        (readTokens template .text (p + 1) rest).map
          fun tokens => .reference n false :: .plain c :: tokens

/-- Between tokens a character stands for itself, unless it begins an escape or a reference. -/
theorem readTokens_plain (template : Text) {c : Char} (hbackslash : c ≠ '\\') (hdollar : c ≠ '$')
    (p : Nat) (rest : Text) :
    readTokens template .text p (c :: rest) =
      (readTokens template .text (p + 1) rest).map (.plain c :: ·) := by
  rw [readTokens, if_neg hbackslash, if_neg hdollar]

/-- The tokens of the text of a template. -/
def tokens (t : Text) : Except Error (List Token) :=
  readTokens t .text 0 t

/-- The template that a text writes. -/
def compile (t : Text) : Except Error Template :=
  (tokens t).map ofTokens

end Template

end Substitution
