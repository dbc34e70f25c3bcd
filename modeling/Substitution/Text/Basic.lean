/-!
# Texts

A text is the list of its code points: patterns, templates, sources and files are read and written
as such lists, and every position and length counts code points. Here are the numerals that texts
spell: decimal and hexadecimal, written and read.
-/

namespace Substitution

/-- A text: the list of its code points. -/
abbrev Text := List Char

namespace Text

/-- The decimal numeral of a number. -/
def decimal (n : Nat) : Text :=
  Nat.toDigits 10 n

/-- The decimal numeral of an integer. -/
def decimalInt : Int → Text
  | .ofNat n => decimal n
  | .negSucc n => '-' :: decimal (n + 1)

/-- The value of a hexadecimal digit. -/
def hexValue? (c : Char) : Option Nat :=
  if '0' ≤ c && c ≤ '9' then some (c.toNat - '0'.toNat)
  else if 'a' ≤ c && c ≤ 'f' then some (c.toNat - 'a'.toNat + 10)
  else if 'A' ≤ c && c ≤ 'F' then some (c.toNat - 'A'.toNat + 10)
  else none

/-- Is `c` a hexadecimal digit? -/
def isHexDigit (c : Char) : Bool :=
  (hexValue? c).isSome

/-- The number that a text of hexadecimal digits spells. -/
def ofHex (t : Text) : Nat :=
  t.foldl (fun n c => 16 * n + (hexValue? c).getD 0) 0

/-- The text filled up on the left with `fill` to the given length. -/
def padLeft (length : Nat) (fill : Char) (t : Text) : Text :=
  List.replicate (length - t.length) fill ++ t

/-- The hexadecimal numeral of a number, in small letters, of at least the given length. -/
def hex (length n : Nat) : Text :=
  padLeft length '0' (Nat.toDigits 16 n)

/-- The hexadecimal numeral of a number, in capitals, of at least the given length. -/
def hexUpper (length n : Nat) : Text :=
  (hex length n).map Char.toUpper

/-- The texts joined, with `separator` between each two. -/
def joinWith (separator : Text) : List Text → Text
  | [] => []
  | [t] => t
  | t :: ts => t ++ separator ++ joinWith separator ts

/-- The pieces of the text between the occurrences of `separator`. -/
def splitAtEach (separator : Char) : Text → List Text
  | [] => [[]]
  | c :: rest =>
    if c = separator then [] :: splitAtEach separator rest
    else match splitAtEach separator rest with
      | [] => [[c]]
      | piece :: pieces => (c :: piece) :: pieces

/-- The part of the text from position `start` up to, and without, position `stop`. -/
def slice (t : Text) (start stop : Nat) : Text :=
  (t.take stop).drop start

/-- Is `a` at most `b` in the order of code points? -/
def le (a b : Text) : Bool :=
  match a, b with
  | [], _ => true
  | _ :: _, [] => false
  | x :: xs, y :: ys => x.toNat < y.toNat || (x == y && le xs ys)

end Text

end Substitution
