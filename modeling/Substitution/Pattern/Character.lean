import Substitution.Pattern.Flags
import Substitution.Text.Blank
import Substitution.Text.Digit
import Substitution.Text.LetterCase
import Substitution.Text.Word

/-!
# Tests of one character

The smallest patterns look at one character: a literal, a set in brackets, a class such as `\w`, the
dot. `Substitution.Test.accepts` says which characters a test accepts under a `Substitution.Mode`.

Code points are numbers here, since a pattern may name one that no text contains.

## Letter case

When case is ignored, the character is replaced by its small letter and compared with the small
letters of what the test names, and with those that share a capital with them. Two refinements
belong to sets. A set that names nothing with a case is asked about the character as it stands. And
a set names code points above U+FFFF in its own way: a single one is compared with the small letter
as it stands, and a range that reaches above accepts the character if its small letter, or the
capital of that, lies in the range.
-/

namespace Substitution

/-- A class of characters with a letter of its own. -/
inductive Category where
  | digit
  | blank
  | word
deriving Repr, DecidableEq

/-- A member of a set in brackets. -/
inductive SetItem where
  /-- A code point. -/
  | code (c : Nat)
  /-- The code points from `first` to `last`. -/
  | range (first last : Nat)
  /-- The characters of a class, or those outside of it. -/
  | category (k : Category) (negated : Bool)
deriving Repr, DecidableEq

/-- A test of one character. -/
inductive Test where
  /-- Any character, or any but the line feed. -/
  | any (lineFeed : Bool)
  /-- One code point, or all but one. -/
  | code (c : Nat) (negated : Bool)
  /-- A set, or all outside of it. -/
  | set (items : List SetItem) (negated : Bool)
deriving Repr, DecidableEq

/-- How characters are compared. -/
structure Mode where
  ignoreCase : Bool
  unicode : Bool
deriving Repr, DecidableEq

namespace Mode

/-- The comparison that flags ask for. -/
def ofFlags (f : Flags) : Mode :=
  ⟨f.has Flags.ignoreCase, !f.has Flags.ascii⟩

/-- The small letter of a code point. -/
def lower (m : Mode) (code : Nat) : Nat :=
  if m.unicode then Text.lowerCode code else Text.lowerAsciiCode code

/-- Has one of the code points from `first` to `last` another case? -/
def anyCased (m : Mode) (first last : Nat) : Bool :=
  if m.unicode then Text.anyCased first last else Text.anyAsciiCased first last

/-- Has the code point another case? -/
def isCased (m : Mode) (code : Nat) : Bool :=
  m.anyCased code code

/-- The small letters that count as equal to a small letter. -/
def kindred (m : Mode) (code : Nat) : List Nat :=
  if m.unicode then Text.kindred code else [code]

/-- The code points with the given small letter. -/
def preimages (m : Mode) (code : Nat) : List Nat :=
  if m.unicode then Text.lowerPreimages code
  else if 0x41 ≤ code && code ≤ 0x5A then []
  else if 0x61 ≤ code && code ≤ 0x7A then [code, code - 0x20]
  else [code]

end Mode

namespace Category

/-- Is the character in the class? -/
def holds (k : Category) (unicode : Bool) (c : Char) : Bool :=
  match k with
  | digit => if unicode then Text.isDigit c else Text.isAsciiDigit c
  | blank => if unicode then Text.isBlank c else Text.isAsciiBlank c
  | word => if unicode then Text.isWord c else Text.isAsciiWord c

end Category

namespace SetItem

/-- Does the item hold the character as it stands? -/
def holds (unicode : Bool) (c : Char) : SetItem → Bool
  | code d => c.toNat == d
  | range first last => first ≤ c.toNat && c.toNat ≤ last
  | category k negated => k.holds unicode c != negated

/-- Does some code point below U+10000 of the item match the small letter `small`? -/
def meets (m : Mode) (small : Nat) : SetItem → Bool
  | code d => d < 0x10000 && (m.kindred (m.lower d)).contains small
  | range first last =>
    (m.kindred small).any fun k =>
      (m.preimages k).any fun d => first ≤ d && d ≤ last && d < 0x10000
  | category _ _ => false

/-- Does the item hold the small letter in the manner of code points from U+10000 on? -/
def meetsAbove (small : Nat) : SetItem → Bool
  | code d => 0x10000 ≤ d && d == small
  | range first last =>
    0x10000 ≤ last && ((first ≤ small && small ≤ last) ||
      (first ≤ Text.upperCode small && Text.upperCode small ≤ last))
  | category _ _ => false

/-- Does the item name something that has a case? Every code point from U+10000 on counts. -/
def isCased (m : Mode) : SetItem → Bool
  | code d => 0x10000 ≤ d || m.isCased d
  | range first last =>
    0x10000 ≤ last || m.anyCased first last
  | category _ _ => false

/-- Does the item have a case when it is to tell where a match can begin? A single code point counts
only if it has one; of ranges, all that reach above U+FFFF count. -/
def isCasedInFront (m : Mode) : SetItem → Bool
  | code d => m.isCased d
  | range first last =>
    0x10000 ≤ last || m.anyCased first last
  | category _ _ => false

end SetItem

namespace Test

/-- Does the set hold the character? -/
def inSet (m : Mode) (items : List SetItem) (c : Char) : Bool :=
  if m.ignoreCase && items.any (SetItem.isCased m) then
    let small := m.lower c.toNat
    items.any fun item =>
      item.meets m small || item.meetsAbove small || match item with
        | .category k negated => k.holds m.unicode (Char.ofNat small) != negated
        | _ => false
  else items.any (SetItem.holds m.unicode c)

/-- Is the character the code point? -/
def isCode (m : Mode) (d : Nat) (c : Char) : Bool :=
  if m.ignoreCase && m.isCased d then (m.kindred (m.lower d)).contains (m.lower c.toNat)
  else c.toNat == d

/-- Does the test accept the character? -/
def accepts (m : Mode) (t : Test) (c : Char) : Bool :=
  match t with
  | any lineFeed => lineFeed || c != '\n'
  | code d negated => isCode m d c != negated
  | set items negated => inSet m items c != negated

end Test

end Substitution
