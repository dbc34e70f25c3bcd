import Substitution.Text.Basic

/-!
# Walking over a document

A place in the text of a document, with its line and column, and the classes of characters on which
the layout of a document rests. Line ends have been unified before, so a line ends with a line feed,
a next-line character or one of the two Unicode separators; the former two count as a line feed. The
byte-order mark takes no column.
-/

namespace Substitution

namespace Yaml

/-- May the character occur in a document? -/
def isAllowed (c : Char) : Bool :=
  c == '\t' || c == '\n' || c == '\r' || (' ' ≤ c && c ≤ '~') || c.toNat == 0x85 ||
    (0xA0 ≤ c.toNat && c.toNat ≤ 0xD7FF) || (0xE000 ≤ c.toNat && c.toNat ≤ 0xFFFD) ||
    0x10000 ≤ c.toNat

/-- Does the character end a line? -/
def isBreak (c : Char) : Bool :=
  c == '\n' || c.toNat == 0x85 || c.toNat == 0x2028 || c.toNat == 0x2029

/-- Is the character a space or a tab? -/
def isBlank (c : Char) : Bool :=
  c == ' ' || c == '\t'

/-- Is there no character, or a space or the end of a line? -/
def isGap : Option Char → Bool
  | none => true
  | some c => c == ' ' || isBreak c

/-- Is there no character, or a space, a tab or the end of a line? -/
def isGapOrTab : Option Char → Bool
  | none => true
  | some c => isBlank c || isBreak c

/-- Is there no character, or the end of a line? -/
def isLineEnd : Option Char → Bool
  | none => true
  | some c => isBreak c

/-- May the character occur in the name of an anchor or of a directive? -/
def isNameChar (c : Char) : Bool :=
  ('0' ≤ c && c ≤ '9') || ('A' ≤ c && c ≤ 'Z') || ('a' ≤ c && c ≤ 'z') || c == '-' || c == '_'

/-- A place in a document. -/
structure Cursor where
  /-- What follows. -/
  rest : Text
  /-- How many characters come before. -/
  index : Nat
  line : Nat
  column : Nat
deriving Repr, DecidableEq

namespace Cursor

/-- The place at the start of a text. -/
def start (t : Text) : Cursor :=
  ⟨t, 0, 0, 0⟩

/-- The next character. -/
def peek (c : Cursor) : Option Char :=
  c.rest.head?

/-- The character after `n` others. -/
def peekAt (c : Cursor) (n : Nat) : Option Char :=
  c.rest[n]?

/-- The place after the next character. -/
def next (c : Cursor) : Cursor :=
  match c.rest with
  | [] => c
  | d :: rest =>
    if isBreak d then ⟨rest, c.index + 1, c.line + 1, 0⟩
    else ⟨rest, c.index + 1, c.line, if d.toNat = 0xFEFF then c.column else c.column + 1⟩

/-- The place after `n` characters. -/
def skip (n : Nat) (c : Cursor) : Cursor :=
  match n with
  | 0 => c
  | n + 1 => skip n c.next

/-- The characters from here on that satisfy `p`, and the place after them. -/
def span (p : Char → Bool) (c : Cursor) : Text × Cursor :=
  let taken := c.rest.takeWhile p
  (taken, c.skip taken.length)

/-- The place after the characters from here on that satisfy `p`. -/
def skipWhile (p : Char → Bool) (c : Cursor) : Cursor :=
  (c.span p).2

/-- The place after the spaces that follow. -/
def skipSpaces (c : Cursor) : Cursor :=
  c.skipWhile (· == ' ')

/-- The place after the comment that begins here, if one does. -/
def skipComment (c : Cursor) : Cursor :=
  if c.peek = some '#' then c.skipWhile fun d => !isBreak d else c

/-- The end of a line that stands here: what it counts as, and the place after it. -/
def lineBreak? (c : Cursor) : Option (Char × Cursor) :=
  match c.rest with
  | d :: _ =>
    if isBreak d then
      some (if d.toNat = 0x2028 ∨ d.toNat = 0x2029 then d else '\n', c.next)
    else none
  | [] => none

/-- Does a line begin here that marks the start or the end of a document? -/
def atMarker (c : Cursor) : Bool :=
  (c.rest.take 3 == "---".toList || c.rest.take 3 == "...".toList) && isGapOrTab (c.peekAt 3)

end Cursor

end Yaml

end Substitution
