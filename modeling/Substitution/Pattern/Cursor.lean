import Substitution.Pattern.Error

/-!
# Walking over the text of a pattern

The text of a pattern is read in **tokens**: a backslash and the character after it are one token,
any other character is one. A `Substitution.Cursor` is a place in the text with the tokens that
follow. A backslash that ends the text is noticed as soon as the cursor comes to stand in front of
it, before the token just taken is looked at.
-/

namespace Substitution

/-- The smallest piece of a pattern that is read as one. -/
inductive PatternToken where
  | plain (c : Char)
  | escaped (c : Char)
  /-- A backslash with nothing after it. -/
  | dangling
deriving Repr, DecidableEq

namespace PatternToken

/-- The text of a token. -/
def spell : PatternToken → Text
  | plain c => [c]
  | escaped c => ['\\', c]
  | dangling => ['\\']

/-- The tokens of a text. -/
def ofText : Text → List PatternToken
  | [] => []
  | ['\\'] => [dangling]
  | '\\' :: c :: rest => escaped c :: ofText rest
  | c :: rest => plain c :: ofText rest

end PatternToken

/-- A place in a pattern. -/
structure Cursor where
  /-- The whole pattern. -/
  pattern : Text
  position : Nat
  rest : List PatternToken
deriving Repr

namespace Cursor

/-- A fault whose place lies `back` characters before the cursor. -/
def fail (c : Cursor) (fault : PatternFault) (back : Nat) : Except PatternError α :=
  .error (.malformed c.pattern (c.position - back) fault)

/-- The cursor, provided that it does not stand before a dangling backslash. -/
def settle (c : Cursor) : Except PatternError Cursor :=
  match c.rest with
  | .dangling :: _ => c.fail .danglingBackslash 0
  | _ => .ok c

/-- The cursor at the start of a pattern. -/
def start (pattern : Text) : Except PatternError Cursor :=
  settle ⟨pattern, 0, PatternToken.ofText pattern⟩

/-- The next token. -/
def next (c : Cursor) : Option PatternToken :=
  c.rest.head?

/-- The next character, if the next token is not an escape. -/
def nextPlain (c : Cursor) : Option Char :=
  match c.rest with
  | .plain d :: _ => some d
  | _ => none

/-- The cursor after the next token. -/
def advance (c : Cursor) : Except PatternError Cursor :=
  match c.rest with
  | [] => .ok c
  | t :: rest => settle ⟨c.pattern, c.position + t.spell.length, rest⟩

/-- Steps over a character if it comes next, and tells whether it did. -/
def skip? (c : Cursor) (d : Char) : Except PatternError (Option Cursor) :=
  if c.nextPlain = some d then c.advance.map some else .ok none

/-- Takes up to `limit` characters that satisfy `p`. -/
def takeUpTo (p : Char → Bool) : (limit : Nat) → Cursor → Except PatternError (Text × Cursor)
  | 0, c => .ok ([], c)
  | limit + 1, c =>
    match c.nextPlain with
    | some d =>
      if p d then do
        let (text, c) ← takeUpTo p limit (← c.advance)
        .ok (d :: text, c)
      else .ok ([], c)
    | none => .ok ([], c)

/-- Takes all characters that satisfy `p`. -/
def takeAll (p : Char → Bool) (c : Cursor) : Except PatternError (Text × Cursor) :=
  takeUpTo p c.rest.length c

/-- Takes a name of the kind `what` up to its `terminator` and steps over that; `read` is what has
been taken so far. -/
def takeName (terminator : Char) (what : Text) (read : Text) :
    (limit : Nat) → Cursor → Except PatternError (Text × Cursor)
  | 0, c => .ok (read, c)
  | limit + 1, c =>
    match c.rest with
    | [] =>
      if read.isEmpty then c.fail (.missingName what) 0
      else c.fail (.unterminatedName terminator) read.length
    | t :: _ => do
      let c ← c.advance
      if t = .plain terminator then
        if read.isEmpty then c.fail (.missingName what) 1 else .ok (read, c)
      else takeName terminator what (read ++ t.spell) limit c

/-- Takes a name of the kind `what` up to its `terminator` and steps over that. -/
def name (c : Cursor) (terminator : Char) (what : String) : Except PatternError (Text × Cursor) :=
  takeName terminator what.toList [] (c.rest.length + 1) c

end Cursor

end Substitution
