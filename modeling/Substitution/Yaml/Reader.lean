import Substitution.Yaml.Layout
import Substitution.Yaml.Node

/-!
# Reading nodes from tokens

The grammar of documents over their tokens. A text holds one document, perhaps after directives, and
perhaps none. Where a node may stand and none does, the node is empty.

Every reader takes a bound on its steps first; a document has no more steps than twice its tokens,
so the bound is never met.
-/

namespace Substitution

namespace Yaml

/-- The reading of a document at some place. -/
structure Reading where
  /-- The tokens that follow. -/
  tokens : List Token
  /-- What the tag handles stand for. -/
  handles : List (Text × Text)
  /-- The anchors met so far. -/
  anchors : List Text

/-- A part of the reading of a document. -/
abbrev Read := StateT Reading (Except Error)

namespace Read

/-- The next token. Nothing follows after the end. -/
def peek : Read Token := do
  match (← get).tokens with
  | token :: _ => return token
  | [] => return .endOfText

/-- Passes over the next token. -/
def skip : Read Unit :=
  modify fun r => { r with tokens := r.tokens.drop 1 }

/-- Stops at the next token, which cannot stand here. -/
def refuse : Read α := do
  match ← peek with
  | .fault e => throw e
  | _ => throw .malformed

/-- Passes over the given token, which must be the next one. -/
def expect (token : Token) : Read Unit := do
  if (← peek) = token then skip else refuse

/-- The full tag of a written one. -/
def fullTag (handle : Option Text) (suffix : Text) : Read Text := do
  match handle with
  | none => return suffix
  | some h =>
    match (← get).handles.lookup h with
    | some uri => return uri ++ suffix
    | none => throw .malformed

/-- The anchor that stands here, if one does. -/
def anchor? : Read (Option Text) := do
  match ← peek with
  | .anchor name => skip; return some name
  | _ => return none

/-- The tag that stands here, if one does. -/
def tag? : Read (Option (Option Text × Text)) := do
  match ← peek with
  | .tag handle suffix => skip; return some (handle, suffix)
  | _ => return none

/-- The anchor and the full tag of a node, in either order. -/
def properties : Read (Option Text × Option Text) := do
  let early ← anchor?
  let tag ← tag?
  let anchor ← if early.isNone && tag.isSome then anchor? else pure early
  let tag ← tag.mapM fun (handle, suffix) => fullTag handle suffix
  return (anchor, tag)

/-- Notes an anchor, which must be new. -/
def note (anchor : Option Text) : Read Unit := do
  if let some name := anchor then
    if (← get).anchors.contains name then throw .malformed
    modify fun r => { r with anchors := name :: r.anchors }

/-- The alias of a name, which must be an anchor met before. -/
def known (name : Text) : Read Node := do
  if (← get).anchors.contains name then return .aliasOf name else throw .malformed

/-- The type of a scalar. The tag `!` says that the type is found as if the scalar were plain. -/
def scalarTag (tag : Option Text) (plain : Bool) (text : Text) : Tag :=
  match tag with
  | none => if plain then Tag.ofPlain text else .str
  | some t => if t = ['!'] then Tag.ofPlain text else Tag.ofText t

/-- The type of a collection. -/
def collectionTag (tag : Option Text) (default : Tag) : Tag :=
  match tag with
  | none => default
  | some t => if t = ['!'] then default else Tag.ofText t

/-- Where a node stands. -/
inductive Place where
  /-- In brackets. -/
  | flow
  /-- In a block. -/
  | block
  /-- In a block, as a key or a value of a mapping, where the items of a sequence need not be
  indented. -/
  | entry
deriving DecidableEq

/-- Does one of the tokens come next? -/
def nextIs (tokens : List Token) : Read Bool := do
  return tokens.contains (← peek)

mutual

/-- The node that stands here. -/
def node (place : Place) : (limit : Nat) → Read Node
  | 0 => throw .malformed
  | limit + 1 => do
    if let .aliasOf name ← peek then
      skip
      return ← known name
    let (anchor, tag) ← properties
    match ← peek, place with
    | .item, .entry =>
      note anchor
      return .sequence anchor (collectionTag tag .seq) (← looseItems limit)
    | .scalar plain text, _ =>
      skip
      note anchor
      return .scalar anchor (scalarTag tag plain text) text
    | .flowSequence, _ =>
      skip
      note anchor
      return .sequence anchor (collectionTag tag .seq) (← flowItems true limit)
    | .flowMapping, _ =>
      skip
      note anchor
      return .mapping anchor (collectionTag tag .map) (← flowEntries true limit)
    | .blockSequence, .block | .blockSequence, .entry =>
      skip
      note anchor
      return .sequence anchor (collectionTag tag .seq) (← blockItems limit)
    | .blockMapping, .block | .blockMapping, .entry =>
      skip
      note anchor
      return .mapping anchor (collectionTag tag .map) (← blockEntries limit)
    | _, _ =>
      if anchor.isNone && tag.isNone then refuse
      else
        note anchor
        return .scalar anchor (scalarTag tag true []) []

/-- The node that stands here, or an empty one before one of the given tokens. -/
def nodeUnless (stops : List Token) (place : Place) : (limit : Nat) → Read Node
  | 0 => throw .malformed
  | limit + 1 => do if ← nextIs stops then return .empty else node place limit

/-- The items of a sequence that is opened by indentation, from here to its end. -/
def blockItems : (limit : Nat) → Read (List Node)
  | 0 => throw .malformed
  | limit + 1 => do
    if ← nextIs [.item] then
      skip
      let first ← nodeUnless [.item, .blockEnd] .block limit
      return first :: (← blockItems limit)
    else
      expect .blockEnd
      return []

/-- The items of a sequence that is not indented, from here to its end. -/
def looseItems : (limit : Nat) → Read (List Node)
  | 0 => throw .malformed
  | limit + 1 => do
    if ← nextIs [.item] then
      skip
      let first ← nodeUnless [.item, .key, .value, .blockEnd] .block limit
      return first :: (← looseItems limit)
    else return []

/-- The entries of a mapping that is opened by indentation, from here to its end. -/
def blockEntries : (limit : Nat) → Read (List (Node × Node))
  | 0 => throw .malformed
  | limit + 1 => do
    if ← nextIs [.key] then
      skip
      let key ← nodeUnless [.key, .value, .blockEnd] .entry limit
      let value ← valueUnless [.key, .value, .blockEnd] .entry limit
      return (key, value) :: (← blockEntries limit)
    else
      expect .blockEnd
      return []

/-- The value after a key: empty without a colon, or before one of the given tokens. -/
def valueUnless (stops : List Token) (place : Place) : (limit : Nat) → Read Node
  | 0 => throw .malformed
  | limit + 1 => do
    if ← nextIs [.value] then
      skip
      nodeUnless stops place limit
    else return .empty

/-- The items of a sequence in brackets, from here to its end. An item may be an entry of a mapping
of its own. -/
def flowItems (first : Bool) : (limit : Nat) → Read (List Node)
  | 0 => throw .malformed
  | limit + 1 => do
    if ← nextIs [.flowSequenceEnd] then
      skip
      return []
    if !first then expect .comma
    if ← nextIs [.key] then
      skip
      let key ← nodeUnless [.value, .comma, .flowSequenceEnd] .flow limit
      let value ← valueUnless [.comma, .flowSequenceEnd] .flow limit
      return .mapping none .map [(key, value)] :: (← flowItems false limit)
    else if ← nextIs [.flowSequenceEnd] then
      skip
      return []
    else
      let item ← node .flow limit
      return item :: (← flowItems false limit)

/-- The entries of a mapping in braces, from here to its end. -/
def flowEntries (first : Bool) : (limit : Nat) → Read (List (Node × Node))
  | 0 => throw .malformed
  | limit + 1 => do
    if ← nextIs [.flowMappingEnd] then
      skip
      return []
    if !first then expect .comma
    if ← nextIs [.key] then
      skip
      let key ← nodeUnless [.value, .comma, .flowMappingEnd] .flow limit
      let value ← valueUnless [.comma, .flowMappingEnd] .flow limit
      return (key, value) :: (← flowEntries false limit)
    else if ← nextIs [.flowMappingEnd] then
      skip
      return []
    else
      let key ← node .flow limit
      return (key, .empty) :: (← flowEntries false limit)

end

/-! ### Documents -/

/-- The tag handles that every document has. -/
def defaultHandles : List (Text × Text) :=
  [(['!'], ['!']), (['!', '!'], Tag.home)]

/-- Passes over the directives that stand here and takes over their tag handles. -/
def directives : (limit : Nat) → (versioned : Bool) → (handles : List (Text × Text)) → Read Unit
  | 0, _, _ => throw .malformed
  | limit + 1, versioned, handles => do
    match ← peek with
    | .directive d =>
      skip
      match d with
      | .version major =>
        if versioned ∨ major ≠ 1 then throw .malformed else directives limit true handles
      | .handle h uri =>
        if (handles.lookup h).isSome then throw .malformed
        else directives limit versioned ((h, uri) :: handles)
      | .other => directives limit versioned handles
    | _ => modify fun r => { r with handles := handles ++ defaultHandles }

/-- Passes over marks of the end of a document. -/
def documentEnds : (limit : Nat) → Read Unit
  | 0 => throw .malformed
  | limit + 1 => do
    if ← nextIs [.documentEnd] then
      skip
      documentEnds limit

/-- The content of a document that has been started. -/
def content (limit : Nat) : Read Node := do
  match ← peek with
  | .directive _ | .documentStart | .documentEnd | .endOfText => return .empty
  | _ => node .block limit

/-- The only document of a text, if there is one. -/
def document (limit : Nat) : Read (Option Node) := do
  let root ← match ← peek with
    | .endOfText => return none
    | .directive _ | .documentStart => do
      directives limit false []
      expect .documentStart
      content limit
    | _ => node .block limit
  documentEnds limit
  match ← peek with
  | .endOfText => return some root
  | _ =>
    directives limit false []
    refuse

end Read

/-- The document that tokens make up, if there is one. -/
def document? (tokens : List Token) : Except Error (Option Node) :=
  (Read.document (3 * tokens.length + 3)).run' ⟨tokens, Read.defaultHandles, []⟩

end Yaml

end Substitution
