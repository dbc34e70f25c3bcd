import Substitution.Pattern.Reader

/-!
# Warnings about patterns

Some sets in brackets are read as they stand, but could be meant otherwise: as sets in sets, or as
operations on sets. Whoever reads a pattern is warned of them. `Substitution.Pattern.warnings` lists
the warnings about a pattern in the order in which they are given; the reading itself goes on as if
nothing had happened, and if it fails, the warnings about what has been read until then have been
given all the same.
-/

namespace Substitution

/-- What a set could be meant for. -/
inductive SetDoubt where
  | nested
  | difference
  | intersection
  | symmetricDifference
  | union
deriving Repr, DecidableEq

/-- The name of what is meant perhaps. -/
def SetDoubt.name : SetDoubt → Text
  | nested => "nested set".toList
  | difference => "set difference".toList
  | intersection => "set intersection".toList
  | symmetricDifference => "set symmetric difference".toList
  | union => "set union".toList

/-- A warning about a set, and its place in the pattern. -/
structure PatternWarning where
  doubt : SetDoubt
  position : Nat
deriving Repr, DecidableEq

/-- The message of a warning. -/
def PatternWarning.message (w : PatternWarning) : Text :=
  "Possible ".toList ++ w.doubt.name ++ " at position ".toList ++ Text.decimal w.position

namespace CharacterSet

/-- The operation that a character could stand for when it is written twice. -/
def operation? : Char → Option SetDoubt
  | '-' => some .difference
  | '&' => some .intersection
  | '~' => some .symmetricDifference
  | '|' => some .union
  | _ => none

/-- The warning about an item that begins with the token `t` and behind which the cursor stands, if
it is written twice. -/
def doubled? (t : PatternToken) (c : Cursor) : Option PatternWarning :=
  match t with
  | .plain d =>
    if c.next = some t then (operation? d).map fun doubt => ⟨doubt, c.position - 1⟩ else none
  | _ => none

/-- The warning about a range that goes to a hyphen, if the cursor stands behind its own one. -/
def range? (c : Cursor) : Option PatternWarning :=
  match c.next, c.advance with
  | some (.plain '-'), .ok _ => some ⟨.difference, c.position - 1⟩
  | _, _ => none

/-- The warnings about the next item of a set. -/
def stepWarnings (items : List SetItem) (c : Cursor) : List PatternWarning :=
  match c.next, c.advance with
  | some t, .ok c =>
    if t = .plain ']' ∧ items ≠ [] then []
    else
      let doubled := if items = [] then none else doubled? t c
      let afterHyphen := (readItem t c).toOption.bind fun (_, c) => (c.skip? '-').toOption.join
      doubled.toList ++ (afterHyphen.bind range?).toList
  | _, _ => []

/-- The warnings about the items up to the closing bracket, given those read so far. -/
def warningsFrom (start : Nat) : (limit : Nat) → List SetItem → Cursor → List PatternWarning
  | 0, _, _ => []
  | limit + 1, items, c =>
    stepWarnings items c ++ match step start items c with
      | .ok (false, items, c) => warningsFrom start limit items c
      | _ => []

/-- The warnings about a set whose opening bracket the cursor has passed. -/
def warnings (c : Cursor) : List PatternWarning :=
  let start := c.position - 1
  let nested := if c.nextPlain = some '[' then [⟨.nested, c.position⟩] else []
  nested ++ match c.skip? '^' with
    | .ok inside =>
      let c := inside.getD c
      warningsFrom start (c.rest.length + 1) [] c
    | .error _ => []

end CharacterSet

namespace PatternReader

/-- The warnings about the next token `t` and what belongs to it. -/
def stepWarnings (r : PatternReader) (t : PatternToken) : List PatternWarning :=
  match t, r.cursor.advance with
  | .plain '[', .ok c => CharacterSet.warnings c
  | _, _ => []

/-- The warnings about what is read from here on. -/
def warningsFrom : (limit : Nat) → PatternReader → List PatternWarning
  | 0, _ => []
  | limit + 1, r =>
    match r.cursor.next with
    | none => []
    | some t =>
      r.stepWarnings t ++ match r.step t with
        | .ok next => warningsFrom limit next
        | .error _ => []

end PatternReader

/-- The warnings that reading the text of a pattern under given flags gives rise to. -/
def Pattern.warnings (text : Text) (flags : Flags) : List PatternWarning :=
  match Cursor.start text with
  | .ok cursor => PatternReader.warningsFrom (cursor.rest.length + 1) (.start cursor flags)
  | .error _ => []

end Substitution
