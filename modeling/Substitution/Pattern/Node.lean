import Substitution.Pattern.Character

/-!
# The tree of a pattern

A pattern is a tree whose leaves test one character, test a place between two characters, or repeat
what a group has captured. Flags are resolved while the tree is built, so a leaf says by itself how
it compares.

`Substitution.Node.width` gives the least and the greatest number of characters that a match of the
tree can span; a look-behind needs the two to be equal.
-/

namespace Substitution

/-- A test of a place in the text. -/
inductive Anchor where
  /-- The start of the text. -/
  | textStart
  /-- The start of a line. -/
  | lineStart
  /-- The end of the text. -/
  | textEnd
  /-- The end of the text, or the line feed that ends it. -/
  | lastLineEnd
  /-- The end of a line. -/
  | lineEnd
  /-- Between a word character and another one, or anywhere else; never in an empty text. -/
  | boundary (unicode negated : Bool)
deriving Repr, DecidableEq

/-- In which order a repetition tries its counts. -/
inductive Greed where
  /-- The greatest count first. -/
  | greedy
  /-- The least count first. -/
  | lazy
  /-- The greatest count only. -/
  | possessive
deriving Repr, DecidableEq

/-- The tree of a pattern. Groups are counted from one. -/
inductive Node where
  | empty
  | one (test : Test) (mode : Mode)
  | anchor (a : Anchor)
  | seq (first second : Node)
  | alt (first second : Node)
  /-- A group, which captures what it matches if it has a number. -/
  | group (number : Option Nat) (body : Node)
  /-- The text that a group has captured, once more. -/
  | again (number : Nat) (mode : Mode)
  /-- One of two trees, depending on whether a group has captured. -/
  | given (number : Nat) (yes no : Node)
  /-- Repetition; no `most` means no upper limit. -/
  | loop (least : Nat) (most : Option Nat) (greed : Greed) (body : Node)
  /-- A tree whose first way to match is the only one. -/
  | atomic (body : Node)
  | ahead (negated : Bool) (body : Node)
  /-- A look-behind, with the least and the greatest width of its body. -/
  | behind (negated : Bool) (least most : Nat) (body : Node)
deriving Repr

namespace Node

/-- The nodes one after another. -/
def ofList : List Node → Node
  | [] => empty
  | [n] => n
  | n :: rest => seq n (ofList rest)

/-- The nodes as alternatives, the first one tried first. -/
def anyOf : List Node → Node
  | [] => empty
  | [n] => n
  | n :: rest => alt n (anyOf rest)

/-- The greatest width that is told apart from greater ones. -/
def maxWidth : Nat := Nat.pow 2 64

/-- The least and the greatest width of a match, given those of the groups. -/
def width (groups : Nat → Nat × Nat) : Node → Nat × Nat
  | empty => (0, 0)
  | one _ _ => (1, 1)
  | anchor _ => (0, 0)
  | seq a b => (min maxWidth ((a.width groups).1 + (b.width groups).1),
      min maxWidth ((a.width groups).2 + (b.width groups).2))
  | alt a b =>
    (min (a.width groups).1 (b.width groups).1, max (a.width groups).2 (b.width groups).2)
  | group _ body => body.width groups
  | again number _ => groups number
  | given _ yes no =>
    (min (yes.width groups).1 (no.width groups).1, max (yes.width groups).2 (no.width groups).2)
  | loop least most _ body =>
    let w := body.width groups
    (min maxWidth (w.1 * least), match most with
      | some m => min maxWidth (w.2 * m)
      | none => if w.2 = 0 then 0 else maxWidth)
  | atomic body => body.width groups
  | ahead _ _ => (0, 0)
  | behind _ _ _ _ => (0, 0)

/-- Are the two nodes the same test of a character or a place, or the same back-reference? -/
def sameLeaf : Node → Node → Bool
  | one s m, one t n => s == t && m == n
  | anchor a, anchor b => a == b
  | again g m, again h n => g == h && m == n
  | _, _ => false

end Node

end Substitution
