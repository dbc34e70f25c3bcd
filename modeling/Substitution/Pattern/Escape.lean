import Substitution.Pattern.Cursor
import Substitution.Pattern.Character
import Substitution.Text.CharacterName

/-!
# Escapes in a pattern

What a backslash and the characters after it stand for. Most escapes name a code point: by a letter
of its own (`\n`), in hexadecimal (`\x41`, `\u0041`, `\U00000041`), in octal (`\101`) or by the name
of the character (`\N{BULLET}`). Others name a class of characters, a place in the text or a group.
A backslash before an ASCII letter that has no meaning is a fault; before any other character it
stands for that character.

Inside a set in brackets there are no places and no groups, `\b` is the backspace, and any digits
are octal.
-/

namespace Substitution

/-- A place that an escape names. -/
inductive EscapedPlace where
  | textStart
  | textEnd
  | boundary (negated : Bool)
deriving Repr, DecidableEq

/-- What an escape stands for. -/
inductive Escape where
  | code (c : Nat)
  | category (k : Category) (negated : Bool)
  | place (p : EscapedPlace)
  /-- A group; `length` is that of the escape. -/
  | group (number length : Nat)
deriving Repr, DecidableEq

namespace Escape

/-- The code points of the letters that name a control, and of the backslash. -/
def control? (c : Char) : Option Nat :=
  match c with
  | 'a' => some 7
  | 'f' => some 12
  | 'n' => some 10
  | 'r' => some 13
  | 't' => some 9
  | 'v' => some 11
  | '\\' => some 92
  | _ => none

/-- The classes of characters. -/
def category? (c : Char) : Option Escape :=
  match c with
  | 'd' => some (.category .digit false)
  | 'D' => some (.category .digit true)
  | 's' => some (.category .blank false)
  | 'S' => some (.category .blank true)
  | 'w' => some (.category .word false)
  | 'W' => some (.category .word true)
  | _ => none

/-- The places. -/
def place? (c : Char) : Option Escape :=
  match c with
  | 'A' => some (.place .textStart)
  | 'b' => some (.place (.boundary false))
  | 'B' => some (.place (.boundary true))
  | 'Z' => some (.place .textEnd)
  | _ => none

/-- Is `c` an octal digit? -/
def isOctal (c : Char) : Bool :=
  '0' ≤ c && c ≤ '7'

/-- The number that octal digits spell. -/
def ofOctal (t : Text) : Nat :=
  t.foldl (fun n c => 8 * n + (c.toNat - '0'.toNat)) 0

/-- Reads the `digits` hexadecimal digits of an escape that begins with the letter `e`. -/
def readHex (e : Char) (digits : Nat) (c : Cursor) : Except PatternError (Nat × Cursor) := do
  let (text, c) ← c.takeUpTo Text.isHexDigit digits
  if text.length = digits then
    if Text.ofHex text ≤ 0x10FFFF then .ok (Text.ofHex text, c)
    else c.fail (.badEscape ('\\' :: e :: text)) (text.length + 2)
  else c.fail (.incompleteEscape ('\\' :: e :: text)) (text.length + 2)

/-- Reads the braced name of a character. -/
def readName (c : Cursor) : Except PatternError (Nat × Cursor) := do
  match ← c.skip? '{' with
  | none => c.fail .missingBrace 0
  | some c =>
    let (name, c) ← c.name '}' "character name"
    match Text.characterNamed? name with
    | some value => .ok (value, c)
    | none => c.fail (.unknownCharacter name) (name.length + 4)

/-- An octal escape with the given digits, which the cursor has passed. -/
def octal (digits : Text) (c : Cursor) : Except PatternError (Escape × Cursor) :=
  if ofOctal digits ≤ 0o377 then .ok (.code (ofOctal digits), c)
  else c.fail (.octalTooLarge ('\\' :: digits)) (digits.length + 1)

/-- The escapes that mean the same inside and outside of sets, and the faults; `e` is the character
after the backslash, which the cursor has passed. -/
def readCommon (e : Char) (c : Cursor) : Except PatternError (Escape × Cursor) := do
  if e = 'x' then
    let (value, c) ← readHex e 2 c
    .ok (.code value, c)
  else if e = 'u' then
    let (value, c) ← readHex e 4 c
    .ok (.code value, c)
  else if e = 'U' then
    let (value, c) ← readHex e 8 c
    .ok (.code value, c)
  else if e = 'N' then
    let (value, c) ← readName c
    .ok (.code value, c)
  else if Text.isAsciiAlphanum e then c.fail (.badEscape ['\\', e]) 2
  else .ok (.code e.toNat, c)

/-- An escape inside a set. -/
def readInSet (e : Char) (c : Cursor) : Except PatternError (Escape × Cursor) := do
  match control? e, category? e with
  | some value, _ => .ok (.code value, c)
  | none, some meaning => .ok (meaning, c)
  | none, none =>
    if e = 'b' then .ok (.code 8, c)
    else if isOctal e then
      let (digits, c) ← c.takeUpTo isOctal 2
      octal (e :: digits) c
    else readCommon e c

/-- An escape that begins with a digit other than zero, outside of sets: three octal digits are a
code point, else one or two decimal digits are the number of a group. -/
def readNumber (e : Char) (c : Cursor) : Except PatternError (Escape × Cursor) := do
  match c.nextPlain with
  | some d =>
    if Text.isAsciiDigit d then
      let c ← c.advance
      match isOctal e && isOctal d, c.nextPlain.filter isOctal with
      | true, some f => octal [e, d, f] (← c.advance)
      | _, _ => .ok (.group (10 * (e.toNat - '0'.toNat) + (d.toNat - '0'.toNat)) 3, c)
    else .ok (.group (e.toNat - '0'.toNat) 2, c)
  | none => .ok (.group (e.toNat - '0'.toNat) 2, c)

/-- An escape outside of sets. -/
def read (e : Char) (c : Cursor) : Except PatternError (Escape × Cursor) := do
  match place? e, category? e, control? e with
  | some meaning, _, _ => .ok (meaning, c)
  | none, some meaning, _ => .ok (meaning, c)
  | none, none, some value => .ok (.code value, c)
  | none, none, none =>
    if e = '0' then
      let (digits, c) ← c.takeUpTo isOctal 2
      .ok (.code (ofOctal digits), c)
    else if Text.isAsciiDigit e then readNumber e c
    else readCommon e c

end Escape

end Substitution
