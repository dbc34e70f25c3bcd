import Substitution.Text.Base64
import Substitution.Yaml.Reader

/-!
# The value of a document

What a node means is said in one record, `Substitution.Yaml.Meaning`: its value, its text where a
scalar is wanted, and its entries where another mapping takes them over. The record of a collection
is made from those of its parts, and the record of an alias from that of the node it stands for,
looked up only when it is asked for something.

A node may contain itself through an alias. The names of the nodes around a place are kept in a
**path**, and an alias of one of them is not followed again. The outermost levels of a document can
be left out of the path, so that a part of a value is cut only where it contains itself.

A document is read level by level, so of several faults the least deep one is reported, and among
those on one level the first.
-/

namespace Substitution

namespace Yaml

/-- A fault and the level of the document on which it is found. -/
structure DeepFault where
  depth : Nat
  error : Error
deriving Repr, DecidableEq

/-- Something built from a part of a document, unless there is a fault. -/
abbrev Built (α : Type) := Except DeepFault α

namespace Built

/-- A part that breaks the rules of the format. -/
def malformed (depth : Nat) : Built α :=
  .error ⟨depth, .malformed⟩

/-- Two parts, the second one after the first. -/
def both (a : Built α) (b : Built β) : Built (α × β) :=
  match a, b with
  | .ok x, .ok y => .ok (x, y)
  | .ok _, .error f => .error f
  | .error e, .ok _ => .error e
  | .error e, .error f => .error (if f.depth < e.depth then f else e)

/-- All parts of a list. -/
def all : List (Built α) → Built (List α)
  | [] => .ok []
  | a :: rest => (both a (all rest)).map fun (x, xs) => x :: xs

/-- The parts of two lists, one after the other. -/
def append (a b : Built (List α)) : Built (List α) :=
  (both a b).map fun (xs, ys) => xs ++ ys

end Built

/-! ### Scalars -/

/-- The truth value of a word. -/
def truth (text : Text) : Except ScalarFault Bool :=
  let word := Text.lowered text
  if ["yes", "true", "on"].any (·.toList == word) then .ok true
  else if ["no", "false", "off"].any (·.toList == word) then .ok false
  else .error (.truthValue word)

/-- The date or time that a scalar spells. -/
def timestamp (text : Text) : Except ScalarFault Value :=
  match Timestamp.read? (Tag.dropLastBreak text) with
  | none => .error .notCalendar
  | some ts => ts.value.mapError .calendar

/-- The bytes that a scalar writes. -/
def binary (text : Text) : Except Error Value :=
  if text.any fun c => 0x80 ≤ c.toNat then .error .malformed
  else match Text.decodeBase64 text with
    | some content => .ok (.bytes content)
    | none => .error .malformed

/-- The value of a text with the type of a scalar. -/
def scalarValue (tag : Tag) (text : Text) : Except Error Value :=
  match tag with
  | .null => .ok .null
  | .bool => ((truth text).map .bool).mapError .scalar
  | .int => ((integer text).map .int).mapError .scalar
  | .float => ((decimal text).map .float).mapError .scalar
  | .binary => binary text
  | .timestamp => (timestamp text).mapError .scalar
  | .str => .ok (.str text)
  | _ => .error .malformed

/-! ### Meanings -/

/-- The entries of a mapping. -/
abbrev Entries := List (Value × Value)

/-- What a node means. Every part takes the path and the level of the place. -/
structure Meaning where
  tag : Tag
  /-- Its value. -/
  value : (path : List Text) → (depth : Nat) → Built Value
  /-- Its text, where a scalar is wanted. -/
  text : Unit → Option Text
  /-- Its entries, if it is a mapping that can be taken over, with the entries that it takes over
  itself (`merges`), but not from those in `merging`. -/
  entries : (merges : Bool) → (merging : List Text) → (path : List Text) → (depth : Nat) →
    Option (Built Entries)
  /-- The entries that it gives after a merge key: its own, or those of its items. -/
  given : (merging : List Text) → (path : List Text) → (depth : Nat) → Option (Built Entries)
  /-- Its only entry, where a pair is wanted. -/
  pair : (path : List Text) → (depth : Nat) → Built Value

/-- The path in a node with an anchor, which counts only below the outermost levels. -/
def extend (free depth : Nat) (anchor : Option Text) (path : List Text) : List Text :=
  if depth < free then path else anchor.toList ++ path

namespace Meaning

/-- The value of a key. -/
def key (m : Meaning) (path : List Text) (depth : Nat) : Built Value :=
  let built :=
    if m.tag = .value then
      match m.text () with
      | some t => .ok (.str t)
      | none => Built.malformed depth
    else m.value path depth
  built.bind fun k => if k.isKey then .ok k else Built.malformed depth

/-- A scalar. -/
def ofScalar (tag : Tag) (text : Text) : Meaning where
  tag := tag
  value _ depth :=
    match tag with
    | .seq | .pairs | .set | .map => Built.malformed (depth + 1)
    | _ => (scalarValue tag text).mapError (⟨depth, ·⟩)
  text _ := some text
  entries _ _ _ _ := none
  given _ _ _ := none
  pair _ depth := Built.malformed depth

/-- A sequence of nodes. -/
def ofSequence (free : Nat) (anchor : Option Text) (tag : Tag) (items : List Meaning) :
    Meaning where
  tag := tag
  value path depth :=
    let path := extend free depth anchor path
    match tag with
    | .seq => (Built.all (items.map fun m => m.value path (depth + 1))).map .list
    | .pairs => (Built.all (items.map fun m => m.pair path (depth + 1))).map .list
    | .set | .map => Built.malformed (depth + 1)
    | _ => Built.malformed depth
  text _ := none
  entries _ _ _ _ := none
  given merging path depth :=
    (items.reverse.mapM fun (m : Meaning) => m.entries true merging path depth).map fun parts =>
      parts.foldr Built.append (.ok [])
  pair _ depth := Built.malformed depth

/-- The entries of a mapping, those it takes over from others first. -/
def allEntries (merges : Bool) (merging : List Text) (parts : List (Meaning × Meaning))
    (path : List Text) (depth : Nat) : Option (Built Entries) := do
  let isMerge (part : Meaning × Meaning) := part.1.tag == .merge
  let others ← if merges then
      (parts.filter isMerge).mapM fun (_, v) => v.given merging path depth
    else some []
  let own := (parts.filter fun part => !isMerge part).map fun (k, v) =>
    Built.both (k.key path depth) (v.value path depth)
  some (others.foldr Built.append (Built.all own))

/-- A mapping. -/
def ofMapping (free : Nat) (anchor : Option Text) (tag : Tag) (parts : List (Meaning × Meaning)) :
    Meaning :=
  let text (_ : Unit) := (parts.find? fun part => part.1.tag == .value).bind fun part =>
    part.2.text ()
  let entries (merges : Bool) (merging path : List Text) (depth : Nat) :=
    allEntries merges (anchor.toList ++ merging) parts path depth
  { tag
    value path depth :=
      let whole (make : Entries → Value) : Built Value :=
        match entries true [] (extend free depth anchor path) (depth + 1) with
        | none => Built.malformed (depth + 1)
        | some built => built.map fun es => make (Value.entriesOf es)
      match tag with
      | .map => whole .map
      | .set => whole fun es => .set (es.map Prod.fst)
      | .seq | .pairs => Built.malformed (depth + 1)
      | _ =>
        match text () with
        | none => Built.malformed depth
        | some t =>
          if tag = .timestamp then .error ⟨depth, .scalar .collectionAsCalendar⟩
          else (scalarValue tag t).mapError (⟨depth, ·⟩)
    text
    entries
    given := entries true
    pair path depth :=
      match parts with
      | [(k, v)] =>
        (Built.both (k.value path depth) (v.value path depth)).map fun (x, y) => .pair x y
      | _ => Built.malformed depth }

/-- An alias of a name, whose node means `referent`. -/
def ofAlias (anchored : List (Text × Node)) (name : Text) (referent : Text → Meaning) :
    Meaning where
  tag := match anchored.lookup name with
    | some (.scalar _ t _) | some (.sequence _ t _) | some (.mapping _ t _) => t
    | _ => .unknown
  value path depth :=
    if path.contains name then
      match anchored.lookup name with
      | some (.sequence ..) => .ok .listAgain
      | _ => .ok .mapAgain
    else (referent name).value path depth
  text _ := (referent name).text ()
  entries merges merging := (referent name).entries (merges && !merging.contains name) merging
  given merging :=
    if merging.contains name then (referent name).entries false merging
    else (referent name).given merging
  pair := (referent name).pair

end Meaning

namespace Node

variable (free : Nat) (anchored : List (Text × Node)) (referent : Text → Meaning)

/-- What a node means, given what aliases stand for. -/
def meaning : Node → Meaning
  | scalar _ tag text => .ofScalar tag text
  | sequence anchor tag items => .ofSequence free anchor tag (meanings items)
  | mapping anchor tag entries => .ofMapping free anchor tag (entryMeanings entries)
  | aliasOf name => .ofAlias anchored name referent
where
  /-- What the items of a sequence mean. -/
  meanings : List Node → List Meaning
    | [] => []
    | n :: rest => meaning n :: meanings rest
  /-- What the entries of a mapping mean. -/
  entryMeanings : List (Node × Node) → List (Meaning × Meaning)
    | [] => []
    | (k, v) :: rest => (meaning k, meaning v) :: entryMeanings rest

end Node

/-- What an alias stands for, if at most `limit` aliases are followed one inside the other. -/
def referent (free : Nat) (anchored : List (Text × Node)) : (limit : Nat) → Text → Meaning
  | 0, _ => .ofScalar .unknown []
  | limit + 1, name =>
    match anchored.lookup name with
    | none => .ofScalar .unknown []
    | some node => node.meaning free anchored (referent free anchored limit)

/-- The value of a document. An alias is followed only out of the path, so no more of them are
followed one inside the other than there are anchors, levels left out, and nodes to take entries
from. -/
def valueOf (free : Nat) (root : Node) : Except Error Value :=
  let anchored := root.anchored
  let limit := (anchored.length + free + 2) * (anchored.length + 2)
  ((root.meaning free anchored (referent free anchored limit)).value [] 0).mapError DeepFault.error

/-- The value that a text holds; nothing if there is no document. A part of it is cut where it
contains itself, not counting the outermost `free` levels. -/
def read (free : Nat) (t : Text) : Except Error Value := do
  match ← document? (tokens t) with
  | none => .ok .null
  | some root => valueOf free root

end Yaml

end Substitution
