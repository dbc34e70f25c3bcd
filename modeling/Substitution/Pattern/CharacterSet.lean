import Substitution.Pattern.Escape

/-!
# Sets in brackets

A set lists code points, ranges of them and classes. A caret in front takes the complement. A
closing bracket in first place stands for itself, and so does a hyphen in first or last place. A set
of just one code point is a test of that code point.
-/

namespace Substitution

namespace SetItem

/-- The item that one escape or character of a set stands for. -/
def ofEscape : Escape → SetItem
  | .code c => .code c
  | .category k negated => .category k negated
  | .place _ => .code 0
  | .group _ _ => .code 0

end SetItem

namespace CharacterSet

/-- Reads what a token of a set, which the cursor has passed, stands for. -/
def readItem (t : PatternToken) (c : Cursor) : Except PatternError (SetItem × Cursor) :=
  match t with
  | .plain d => .ok (.code d.toNat, c)
  | .escaped e => (Escape.readInSet e c).map fun (meaning, c) => (SetItem.ofEscape meaning, c)
  | .dangling => c.fail .danglingBackslash 0

/-- The range between two items, which the tokens `a` and `b` began. -/
def range (a b : PatternToken) (first last : SetItem) (c : Cursor) : Except PatternError SetItem :=
  let fault := c.fail (.badRange a.spell b.spell) (a.spell.length + 1 + b.spell.length)
  match first, last with
  | .code lo, .code hi => if hi < lo then fault else .ok (.range lo hi)
  | _, _ => fault

/-- Reads the next item of a set or its closing bracket, given the items read so far, and tells
whether the set is closed; the set began at position `start`. -/
def step (start : Nat) (items : List SetItem) (c : Cursor) :
    Except PatternError (Bool × List SetItem × Cursor) := do
  match c.next with
  | none => c.fail .unterminatedSet (c.position - start)
  | some t =>
    let c ← c.advance
    if t = .plain ']' ∧ items ≠ [] then .ok (true, items, c)
    else
      let (item, c) ← readItem t c
      match ← c.skip? '-' with
      | none => .ok (false, items ++ [item], c)
      | some c =>
        match c.next with
        | none => c.fail .unterminatedSet (c.position - start)
        | some u =>
          let c ← c.advance
          if u = .plain ']' then .ok (true, items ++ [item, .code '-'.toNat], c)
          else
            let (last, c) ← readItem u c
            let r ← range t u item last c
            .ok (false, items ++ [r], c)

/-- Reads the items up to the closing bracket, given those read so far; the set began at position
`start`. -/
def readItems (start : Nat) : (limit : Nat) → List SetItem → Cursor →
    Except PatternError (List SetItem × Cursor)
  | 0, items, c => .ok (items, c)
  | limit + 1, items, c => do
    let (closed, items, c) ← step start items c
    if closed then .ok (items, c) else readItems start limit items c

/-- The test for a set, or for its complement. -/
def test (negated : Bool) (items : List SetItem) : Test :=
  match items.eraseDups with
  | [.code c] => .code c negated
  | distinct => .set distinct negated

/-- Reads a set whose opening bracket the cursor has passed. -/
def read (c : Cursor) : Except PatternError (Test × Cursor) := do
  let start := c.position - 1
  let (negated, c) := match ← c.skip? '^' with
    | some c => (true, c)
    | none => (false, c)
  let (items, c) ← readItems start (c.rest.length + 1) [] c
  .ok (test negated items, c)

end CharacterSet

end Substitution
