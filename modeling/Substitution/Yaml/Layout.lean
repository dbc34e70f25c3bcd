import Substitution.Yaml.Property

/-!
# Layout

The tokens of a document, read from its text. Two things are not written but follow from the layout:
where a collection begins and ends by indentation, and which scalars are keys.

Whether something is a key is known only when the colon after it is met. So the tokens are kept in
**layers**: each place where a key may have begun opens a layer for the tokens from there on. If the
colon comes, the mark of a key goes in below the layer; if it cannot come any more, because the line
has ended or the key has grown too long, nothing does. Either way the layer is then merged into the
one below. A layer belongs to a nesting depth of brackets, and each depth has at most one.

What has been read is settled up to the lowest layer. If a fault ends the reading, only the settled
tokens are reported before it.
-/

namespace Substitution

namespace Yaml

/-- A place where a key may have begun. -/
structure PossibleKey where
  /-- How many brackets are open around it. -/
  depth : Nat
  /-- Must it be a key, because it stands where the items of a block do? -/
  required : Bool
  index : Nat
  line : Nat
  column : Nat
deriving Repr, DecidableEq

/-- The tokens from a possible key on, the last one first. -/
structure Layer where
  key : PossibleKey
  tokens : List Token
deriving Repr, DecidableEq

/-- A document read up to some place. -/
structure Layout where
  cursor : Cursor
  /-- How many brackets are open. -/
  depth : Nat
  /-- The columns of the open blocks, the innermost one first. -/
  indents : List Nat
  /-- May a key begin here? -/
  keyAllowed : Bool
  /-- The tokens before the lowest layer, the last one first. -/
  settled : List Token
  /-- The layers, the highest one first. -/
  layers : List Layer
  /-- Has the end of the text been read? -/
  ended : Bool
deriving Repr, DecidableEq

namespace Layout

/-- A document of which nothing has been read. -/
def start (t : Text) : Layout where
  cursor := Cursor.start t
  depth := 0
  indents := []
  keyAllowed := true
  settled := []
  layers := []
  ended := false

/-- Is the place inside brackets? -/
def inFlow (l : Layout) : Bool :=
  l.depth ≠ 0

/-- The column of the innermost block, or a column before the first if no block is open. -/
def indent (l : Layout) : Int :=
  match l.indents with
  | [] => -1
  | i :: _ => i

/-! ### Layers -/

/-- Adds tokens, the last one first, to the highest of the layers, or to the settled tokens. -/
def addTokens (tokens : List Token) (settled : List Token) :
    List Layer → List Token × List Layer
  | [] => (tokens ++ settled, [])
  | layer :: rest => (settled, ⟨layer.key, tokens ++ layer.tokens⟩ :: rest)

/-- The layout with a token added. -/
def push (token : Token) (l : Layout) : Layout :=
  let (settled, layers) := addTokens [token] l.settled l.layers
  { l with settled, layers }

/-- Has the line ended since a key may have begun, or has it grown too long? -/
def isStale (c : Cursor) (key : PossibleKey) : Bool :=
  key.line != c.line || key.index + 1024 < c.index

/-- The layers without those whose key cannot come any more, each merged into the one below. -/
def mergeStale (c : Cursor) (settled : List Token) : List Layer → List Token × List Layer
  | [] => (settled, [])
  | layer :: rest =>
    let (settled, rest) := mergeStale c settled rest
    if isStale c layer.key then addTokens layer.tokens settled rest else (settled, layer :: rest)

/-- The layout without the keys that cannot come any more. It is an error if one of them must. -/
def dropStale (l : Layout) : Except Error Layout :=
  if l.layers.any fun layer => isStale l.cursor layer.key && layer.key.required then
    .error .malformed
  else
    let (settled, layers) := mergeStale l.cursor l.settled l.layers
    .ok { l with settled, layers }

/-- The layer of the present depth, if there is one, and the layers below it. -/
def ownLayer? (l : Layout) : Option (Layer × List Layer) :=
  match l.layers with
  | layer :: rest => if layer.key.depth = l.depth then some (layer, rest) else none
  | [] => none

/-- The layout without the possible key of the present depth. It is an error if it must be a key. -/
def dropKey (l : Layout) : Except Error Layout :=
  match l.ownLayer? with
  | none => .ok l
  | some (layer, rest) =>
    if layer.key.required then .error .malformed
    else
      let (settled, layers) := addTokens layer.tokens l.settled rest
      .ok { l with settled, layers }

/-- The layout in which a key may have begun at the place. -/
def markKey (l : Layout) : Except Error Layout :=
  if l.keyAllowed then do
    let l ← l.dropKey
    let c := l.cursor
    let required := !l.inFlow && l.indent == c.column
    .ok { l with layers := ⟨⟨l.depth, required, c.index, c.line, c.column⟩, []⟩ :: l.layers }
  else .ok l

/-! ### Blocks -/

/-- The layout in which the blocks from some column on are closed, unless brackets are open. -/
def closeBlocks (isClosed : Nat → Bool) (l : Layout) : Layout :=
  if l.inFlow then l
  else
    let closed := l.indents.takeWhile isClosed
    let l := { l with indents := l.indents.drop closed.length }
    closed.foldl (fun l _ => l.push .blockEnd) l

/-- Does a block begin at a column? -/
def opensBlock (column : Nat) (l : Layout) : Bool :=
  !l.inFlow && l.indent < (column : Int)

/-- The layout in which a block is opened at the place, if one begins there. -/
def openBlock (token : Token) (l : Layout) : Layout :=
  if l.opensBlock l.cursor.column then
    { l.push token with indents := l.cursor.column :: l.indents }
  else l

/-! ### The next token -/

/-- The layout at another place, where a key may begin or not. -/
def goTo (c : Cursor) (keyAllowed : Bool) (l : Layout) : Layout :=
  { l with cursor := c, keyAllowed }

/-- The place of the next token, past spaces, comments and line ends, and whether a line has ended.
-/
def skipToToken : (limit : Nat) → Cursor → Cursor × Bool
  | 0, c => (c, false)
  | limit + 1, c =>
    let c := c.skipSpaces.skipComment
    match c.lineBreak? with
    | some (_, c) => ((skipToToken limit c).1, true)
    | none => (c, false)

/-- The layout at the next token. -/
def advance (l : Layout) : Layout :=
  let c := if l.cursor.index = 0 ∧ l.cursor.peek = some (Char.ofNat 0xFEFF) then l.cursor.next
    else l.cursor
  let (c, lineEnded) := skipToToken (c.rest.length + 1) c
  l.goTo c (l.keyAllowed || (lineEnded && !l.inFlow))

/-- The end of the text. -/
def finish (l : Layout) : Except Error Layout := do
  let l ← (l.closeBlocks fun _ => true).dropKey
  let settled := l.layers.foldr (fun layer settled => layer.tokens ++ settled) l.settled
  .ok { l with settled := .endOfText :: settled, layers := [], ended := true }

/-- A directive. -/
def directive (l : Layout) : Except Error Layout := do
  let l ← (l.closeBlocks fun _ => true).dropKey
  let (d, c) ← readDirective l.cursor
  .ok ((l.push (.directive d)).goTo c false)

/-- The start or the end of a document. -/
def marker (token : Token) (l : Layout) : Except Error Layout := do
  let l ← (l.closeBlocks fun _ => true).dropKey
  .ok ((l.push token).goTo (l.cursor.skip 3) false)

/-- An opening bracket or brace. -/
def openFlow (token : Token) (l : Layout) : Except Error Layout := do
  let l ← l.markKey
  .ok (({ l with depth := l.depth + 1 }.push token).goTo l.cursor.next true)

/-- A closing bracket or brace. -/
def closeFlow (token : Token) (l : Layout) : Except Error Layout := do
  let l ← l.dropKey
  .ok (({ l with depth := l.depth - 1 }.push token).goTo l.cursor.next false)

/-- A comma between brackets. -/
def comma (l : Layout) : Except Error Layout := do
  let l ← l.dropKey
  .ok ((l.push .comma).goTo l.cursor.next true)

/-- Goes on if a key may begin at the place, or if it is inside brackets. -/
def requireKeyAllowed (l : Layout) : Except Error Unit :=
  if l.inFlow ∨ l.keyAllowed then .ok () else .error .malformed

/-- The dash before an item. -/
def item (l : Layout) : Except Error Layout := do
  l.requireKeyAllowed
  let l ← (l.openBlock .blockSequence).dropKey
  .ok ((l.push .item).goTo l.cursor.next true)

/-- The question mark before a key. -/
def explicitKey (l : Layout) : Except Error Layout := do
  l.requireKeyAllowed
  let l ← (l.openBlock .blockMapping).dropKey
  .ok ((l.push .key).goTo l.cursor.next !l.inFlow)

/-- The colon before a value. If a key may have begun on this depth, then it was one. -/
def value (l : Layout) : Except Error Layout :=
  match l.ownLayer? with
  | some (layer, rest) =>
    let opens := l.opensBlock layer.key.column
    let marks := if opens then [.key, .blockMapping] else [.key]
    let (settled, layers) := addTokens (layer.tokens ++ marks) l.settled rest
    let indents := if opens then layer.key.column :: l.indents else l.indents
    .ok (({ l with settled, layers, indents }.push .value).goTo l.cursor.next false)
  | none => do
    l.requireKeyAllowed
    let l ← (l.openBlock .blockMapping).dropKey
    .ok ((l.push .value).goTo l.cursor.next !l.inFlow)

/-- A token that may begin a key. -/
def mayBeKey (read : Cursor → Except Error (Token × Bool × Cursor)) (l : Layout) :
    Except Error Layout := do
  let l ← l.markKey
  let (token, keyAllowed, c) ← read l.cursor
  .ok ((l.push token).goTo c keyAllowed)

/-- A scalar inside quotes. -/
def quoted (double : Bool) (l : Layout) : Except Error Layout :=
  l.mayBeKey fun c => (readQuoted double c).map fun (text, c) => (.scalar false text, false, c)

/-- A plain scalar. -/
def plain (l : Layout) : Except Error Layout :=
  l.mayBeKey fun c =>
    let st := readPlain l.inFlow (l.indent + 1) c
    .ok (.scalar true st.text, st.keyAllowed, st.cursor)

/-- A block scalar. -/
def block (folded : Bool) (l : Layout) : Except Error Layout := do
  let l ← l.dropKey
  let (text, c) ← readBlock folded l.indent l.cursor
  .ok ((l.push (.scalar false text)).goTo c true)

/-- Can a plain scalar begin here? Not with an indicator, except that a dash, and outside of
brackets also a question mark or a colon, may begin one if no gap follows. -/
def startsPlain (inFlow : Bool) (c : Cursor) : Bool :=
  match c.peek with
  | none => false
  | some d =>
    !(isGapOrTab (some d) || "-?:,[]\x7b\x7d#&*!|>'\"%@`".toList.contains d) ||
      (!isGapOrTab (c.peekAt 1) && (d == '-' || (!inFlow && (d == '?' || d == ':'))))

/-- The layout after the next token. -/
def next (l : Layout) : Except Error Layout := do
  let l ← l.advance.dropStale
  let c := l.cursor
  let l := l.closeBlocks fun i => c.column < i
  let beforeGap := isGapOrTab (c.peekAt 1)
  match c.peek with
  | none => l.finish
  | some d =>
    if d = '%' ∧ c.column = 0 then l.directive
    else if c.column = 0 ∧ c.atMarker then
      l.marker (if d = '-' then .documentStart else .documentEnd)
    else if d = '[' then l.openFlow .flowSequence
    else if d = '\x7b' then l.openFlow .flowMapping
    else if d = ']' then l.closeFlow .flowSequenceEnd
    else if d = '\x7d' then l.closeFlow .flowMappingEnd
    else if d = ',' then l.comma
    else if d = '-' ∧ beforeGap then l.item
    else if d = '?' ∧ (l.inFlow ∨ beforeGap) then l.explicitKey
    else if d = ':' ∧ (l.inFlow ∨ beforeGap) then l.value
    else if d = '*' then
      l.mayBeKey fun c => (readAnchor c).map fun (name, c) => (.aliasOf name, false, c)
    else if d = '&' then
      l.mayBeKey fun c => (readAnchor c).map fun (name, c) => (.anchor name, false, c)
    else if d = '!' then
      l.mayBeKey fun c => (readTag c).map fun (handle, suffix, c) => (.tag handle suffix, false, c)
    else if d = '|' ∧ !l.inFlow then l.block false
    else if d = '>' ∧ !l.inFlow then l.block true
    else if d = '\'' then l.quoted false
    else if d = '"' then l.quoted true
    else if startsPlain l.inFlow c then l.plain
    else .error .malformed

/-- The settled tokens, in order, and the fault that follows them. -/
def faulty (l : Layout) (e : Error) : List Token :=
  l.settled.reverse ++ [.fault e]

/-- The tokens of the document, which has been read so far. -/
def tokensFrom : (limit : Nat) → Layout → List Token
  | 0, l => l.faulty .malformed
  | limit + 1, l =>
    match l.dropStale with
    | .error e => l.faulty e
    | .ok l =>
      match l.next with
      | .error e => l.faulty e
      | .ok l' => if l'.ended then l'.settled.reverse else tokensFrom limit l'

end Layout

/-- The tokens of a document. -/
def tokens (t : Text) : List Token :=
  if t.all isAllowed then (Layout.start t).tokensFrom (t.length + 2) else [.fault .malformed]

end Yaml

end Substitution
