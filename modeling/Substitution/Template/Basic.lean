import Substitution.Text.Basic

/-!
# Templates

A **template** tells how to write the replacement of a match: it is a list of segments, each a piece
of literal text or a reference to a capture group. References count groups from one when people
write them (`Substitution.Segment.number`) and from zero inside (`index`), so that they index the
list of captures directly.

`Substitution.Template.render` writes the replacement for a list of captures; it fails exactly when
the list is shorter than `Substitution.Template.maxReference`, and then names the first reference
that is out of range.
-/

namespace Substitution

/-- A piece of a template. -/
inductive Segment where
  /-- Text that is written as it stands. -/
  | literal (text : Text)
  /-- The text of a capture group, counted from zero. -/
  | reference (index : Nat)
deriving Repr, DecidableEq

/-- A compiled replacement template. -/
structure Template where
  segments : List Segment
deriving Repr, DecidableEq

/-- A template refers to a capture group that the match does not have. -/
structure UnknownReference where
  /-- The group that was asked for, counted from one. -/
  requested : Nat
  /-- How many groups there are. -/
  available : Nat
deriving Repr, DecidableEq

namespace UnknownReference

/-- The message of a reference out of range. -/
def message (e : UnknownReference) : Text :=
  "Unknown backref $".toList ++ Text.decimal e.requested ++ "; there are only ".toList ++
    Text.decimal e.available ++ " captures".toList

end UnknownReference

namespace Segment

/-- The number of the group that a segment refers to, counted from one; zero for literal text. -/
def number : Segment → Nat
  | literal _ => 0
  | reference index => index + 1

/-- Is the segment literal text? -/
def isLiteral : Segment → Bool
  | literal _ => true
  | reference _ => false

/-- What a segment contributes to a replacement. -/
def render (captures : List Text) : Segment → Except UnknownReference Text
  | literal text => .ok text
  | reference index =>
    match captures[index]? with
    | some text => .ok text
    | none => .error ⟨index + 1, captures.length⟩

end Segment

namespace Template

/-- The greatest group number that is referred to, zero if there is none. -/
def maxReference (t : Template) : Nat :=
  t.segments.foldr (fun s m => max s.number m) 0

/-- Does the template refer to no group? -/
def isLiteral (t : Template) : Bool :=
  t.segments.all Segment.isLiteral

/-- The replacement text for a match with the given captures. -/
def render (t : Template) (captures : List Text) : Except UnknownReference Text :=
  (t.segments.mapM (Segment.render captures)).map List.flatten

end Template

end Substitution
