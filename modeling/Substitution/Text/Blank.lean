import Substitution.Text.Ranges

/-!
# Blanks

The class that patterns write as `\s`: the characters that separate words. The wide reading counts
every separator of Unicode 14 and the information separators U+001C to U+001F; the narrow, ASCII
reading counts the space and the five controls from tab to carriage return.
-/

namespace Substitution

namespace Text

/-- The separators, in order. -/
def blankRanges : Array (Nat × Nat) := #[
  (0x9, 0xD), (0x1C, 0x20), (0x85, 0x85), (0xA0, 0xA0), (0x1680, 0x1680), (0x2000, 0x200A),
  (0x2028, 0x2029), (0x202F, 0x202F), (0x205F, 0x205F), (0x3000, 0x3000)]

/-- Is `c` a blank of the narrow, ASCII reading? -/
def isAsciiBlank (c : Char) : Bool :=
  c == ' ' || (0x09 ≤ c.toNat && c.toNat ≤ 0x0D)

/-- Is `c` a blank? -/
def isBlank (c : Char) : Bool :=
  within blankRanges c.toNat

/-- A text without the blanks at its two ends. -/
def trim (t : List Char) : List Char :=
  ((t.dropWhile isBlank).reverse.dropWhile isBlank).reverse

end Text

end Substitution
