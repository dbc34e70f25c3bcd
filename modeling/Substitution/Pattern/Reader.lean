import Substitution.Pattern.Branch
import Substitution.Pattern.CharacterSet
import Substitution.Pattern.InlineFlags
import Substitution.Text.Identifier

/-!
# Reading patterns

`Substitution.PatternTree.read` reads the text of a pattern under given flags.

The reader keeps a stack of **frames**, one for each group that is open, with the branches of the
group read so far and the flags in force in it. Each step takes at least one token: it puts a piece
at the end of the branch at hand, repeats its last piece, begins a branch, opens a frame or closes
one. The reader also remembers the names and the widths of the groups, so that a reference to a
group can be judged where it stands: the group must be closed, and inside a look-behind it must have
been opened before the look-behind.
-/

namespace Substitution

/-- What an open parenthesis began. -/
inductive Opening where
  | capture (number : Nat)
  | plain
  /-- A group with flags of its own. -/
  | flagged
  | atomic
  | ahead (negated : Bool)
  /-- A look-behind; `outermost` if it is in no other one. -/
  | behind (negated outermost : Bool)
  /-- Two branches to choose from, depending on a group. -/
  | given (number : Nat)
deriving Repr, DecidableEq

/-- Does a condition choose between the branches? -/
def Opening.isGiven : Opening → Bool
  | .given _ => true
  | _ => false

/-- A group that is open, or the pattern itself. -/
structure Frame where
  opening : Opening
  /-- The position of the open parenthesis. -/
  start : Nat
  /-- The finished branches, last one first. -/
  branches : List (List Node)
  /-- The pieces of the branch at hand, last one first. -/
  pieces : List Piece
  /-- The flags in force. -/
  flags : Flags
deriving Repr

/-- A pattern, read up to some place. -/
structure PatternReader where
  cursor : Cursor
  /-- The flags of the whole pattern. -/
  flags : Flags
  /-- The groups that have a name. -/
  names : List (Text × Nat)
  /-- The widths of the groups that are closed, for each group that has been opened. -/
  widths : List (Option (Nat × Nat))
  /-- In a look-behind, how many groups had been opened before the outermost one. -/
  behind : Option Nat
  /-- The groups that conditions name by number, with the places where they do so first. -/
  conditions : List (Nat × Nat)
  frame : Frame
  outer : List Frame
deriving Repr

/-- A pattern that has been read. -/
structure PatternTree where
  root : Node
  /-- The least and the greatest widths of the groups. -/
  widths : List (Nat × Nat)
  flags : Flags
deriving Repr

namespace PatternReader

/-- The least number that is no repetition count. -/
def countLimit : Nat := 4294967295

/-- The least number that is refused at once as the number of a group. -/
def groupLimit : Nat := 1073741823

/-- How characters are compared here. -/
def mode (r : PatternReader) : Mode :=
  .ofFlags r.frame.flags

/-- A fault at a position. -/
def failAt (r : PatternReader) (position : Nat) (fault : PatternFault) : Except PatternError α :=
  .error (.malformed r.cursor.pattern position fault)

/-- Puts a piece at the end of the branch at hand. -/
def push (r : PatternReader) (p : Piece) : PatternReader :=
  { r with frame := { r.frame with pieces := p :: r.frame.pieces } }

/-- Puts a test of one character at the end of the branch at hand. -/
def pushTest (r : PatternReader) (t : Test) : PatternReader :=
  r.push (.single (.one t r.mode))

/-- The width of a group; nothing if it is not closed. -/
def width? (r : PatternReader) (group : Nat) : Option (Nat × Nat) :=
  match group with
  | 0 => none
  | i + 1 => r.widths[i]?.join

/-- Opens a frame. -/
def openFrame (r : PatternReader) (opening : Opening) (start : Nat) (flags : Flags) :
    PatternReader :=
  { r with frame := ⟨opening, start, [], [], flags⟩, outer := r.frame :: r.outer }

/-- Opens the frame of a capturing group. -/
def openCapture (r : PatternReader) (start : Nat) : PatternReader :=
  let r := { r with widths := r.widths ++ [none] }
  r.openFrame (.capture r.widths.length) start r.frame.flags

/-- Checks that a group may be referred to from where the cursor stands. -/
def checkBehind (r : PatternReader) (group : Nat) : Except PatternError Unit :=
  match r.behind with
  | none => .ok ()
  | some before =>
    if (r.width? group).isNone then r.cursor.fail .openGroup 0
    else if before < group then r.cursor.fail .groupInsideLookbehind 0
    else .ok ()

/-- Ends the branch at hand and begins another. -/
def nextBranch (r : PatternReader) : PatternReader :=
  { r with frame := { r.frame with
      branches := Branch.nodes r.frame.pieces :: r.frame.branches
      pieces := [] } }

/-- All branches of the frame at hand. -/
def allBranches (r : PatternReader) : List (List Node) :=
  (Branch.nodes r.frame.pieces :: r.frame.branches).reverse

/-- The width of a tree here. -/
def nodeWidth (r : PatternReader) (n : Node) : Nat × Nat :=
  n.width fun g => (r.width? g).getD (0, 0)

/-- Closes the frame at hand, which lies in the frame `outer`. -/
def close (r : PatternReader) (outer : Frame) (rest : List Frame) : PatternReader :=
  let nodes := Branch.join r.allBranches
  let body := Node.ofList nodes
  let r' := { r with frame := outer, outer := rest }
  match r.frame.opening with
  | .capture g =>
    { r' with widths := r.widths.set (g - 1) (some (r.nodeWidth body)) }.push
      (.single (.group (some g) body))
  | .plain => r'.push ⟨nodes, true⟩
  | .flagged => r'.push (.single (.group none body))
  | .atomic => r'.push (.single (.atomic body))
  | .ahead negated => r'.push (.single (.ahead negated body))
  | .behind negated outermost =>
    let w := r.nodeWidth body
    { r' with behind := if outermost then none else r.behind }.push
      (.single (.behind negated w.1 w.2 body))
  | .given g =>
    match r.allBranches with
    | [yes, no] => r'.push (.single (.given g (.ofList yes) (.ofList no)))
    | _ => r'.push (.single (.given g body .empty))

/-- Repeats the last piece; `start` is the place of the quantifier, which the cursor has passed. -/
def quantify (r : PatternReader) (start least : Nat) (most : Option Nat) :
    Except PatternError PatternReader := do
  match r.frame.pieces with
  | [] => r.failAt start .nothingToRepeat
  | p :: pieces =>
    if p.isAnchor then r.failAt start .nothingToRepeat
    else if p.isLoop then r.failAt start .multipleRepeat
    else
      let (greed, cursor) ← match ← r.cursor.skip? '?' with
        | some c => .ok (Greed.lazy, c)
        | none => match ← r.cursor.skip? '+' with
          | some c => .ok (Greed.possessive, c)
          | none => .ok (Greed.greedy, r.cursor)
      let loop := Node.loop least most greed (.ofList p.nodes)
      .ok { r with cursor, frame := { r.frame with pieces := .single loop :: pieces } }

/-- The number that a decimal numeral of a repetition count spells. -/
def count (digits : Text) : Except PatternError Nat :=
  if digits.length > Text.maxDigits then .error (.numberTooLong digits.length)
  else
    let n := digits.foldl (fun n c => 10 * n + (c.toNat - '0'.toNat)) 0
    if n < countLimit then .ok n else .error .countTooLarge

/-- Reads a quantifier in braces, or a brace that stands for itself; the cursor has passed the open
brace. -/
def readBraces (r : PatternReader) : Except PatternError PatternReader := do
  let itself := r.pushTest (.code '{'.toNat false)
  if r.cursor.nextPlain = some '}' then .ok itself
  else
    let start := r.cursor.position - 1
    let (lo, c) ← r.cursor.takeAll Text.isAsciiDigit
    let (hi, c) ← match ← c.skip? ',' with
      | some c => c.takeAll Text.isAsciiDigit
      | none => .ok (lo, c)
    match ← c.skip? '}' with
    | none => .ok itself
    | some c =>
      let least ← if lo.isEmpty then .ok 0 else count lo
      let most ← if hi.isEmpty then .ok none else (count hi).map some
      if most.any (· < least) then r.failAt (start + 1) .minAboveMax
      else quantify { r with cursor := c } start least most

/-- Reads an escape whose token the cursor has passed. -/
def readEscape (r : PatternReader) (e : Char) : Except PatternError PatternReader := do
  let (meaning, c) ← Escape.read e r.cursor
  let r := { r with cursor := c }
  match meaning with
  | .code d => .ok (r.pushTest (.code d false))
  | .category k negated => .ok (r.pushTest (.set [.category k negated] false))
  | .place .textStart => .ok (r.push (.single (.anchor .textStart)))
  | .place .textEnd => .ok (r.push (.single (.anchor .textEnd)))
  | .place (.boundary negated) =>
    .ok (r.push (.single (.anchor (.boundary r.mode.unicode negated))))
  | .group g length =>
    if g ≤ r.widths.length then
      if (r.width? g).isNone then c.fail .openGroup length
      else
        r.checkBehind g
        .ok (r.push (.single (.again g r.mode)))
    else c.fail (.unknownGroup g) (length - 1)

/-- Takes the name of a group up to its terminator; a group must have a proper name. -/
def groupName (c : Cursor) (terminator : Char) : Except PatternError (Text × Cursor) := do
  let (name, c) ← c.name terminator "group name"
  if Text.isName name then .ok (name, c)
  else c.fail (.badGroupName name) (name.length + 1)

/-- The number of the group with a name. -/
def named? (r : PatternReader) (name : Text) : Option Nat :=
  r.names.lookup name

/-- Reads a group that begins with a `P`, which the cursor has passed: a named group or a reference
to one. -/
def readNamed (r : PatternReader) (start : Nat) : Except PatternError PatternReader := do
  match ← r.cursor.skip? '<', ← r.cursor.skip? '=' with
  | some c, _ =>
    let (name, c) ← groupName c '>'
    match r.named? name with
    | some earlier =>
      c.fail (.redefinedGroup name (r.widths.length + 1) earlier) (name.length + 1)
    | none =>
      let r := { r with cursor := c, names := r.names ++ [(name, r.widths.length + 1)] }
      .ok (r.openCapture start)
  | none, some c =>
    let (name, c) ← groupName c ')'
    let r := { r with cursor := c }
    match r.named? name with
    | none => c.fail (.unknownGroupName name) (name.length + 1)
    | some g =>
      if (r.width? g).isNone then c.fail .openGroup (name.length + 1)
      else
        r.checkBehind g
        .ok (r.push (.single (.again g r.mode)))
  | none, none =>
    match r.cursor.next with
    | none => r.cursor.fail .unexpectedEnd 0
    | some t =>
      let c ← r.cursor.advance
      c.fail (.unknownExtension ('?' :: 'P' :: t.spell)) (t.spell.length + 2)

/-- Reads a look-behind; the cursor has passed the `<`. -/
def readBehind (r : PatternReader) (start : Nat) : Except PatternError PatternReader := do
  match r.cursor.next with
  | none => r.cursor.fail .unexpectedEnd 0
  | some t =>
    let c ← r.cursor.advance
    if t = .plain '=' ∨ t = .plain '!' then
      let r := { r with cursor := c, behind := some (r.behind.getD r.widths.length) }.openFrame
        (.behind (t == PatternToken.plain '!') r.behind.isNone) start r.frame.flags
      .ok r
    else c.fail (.unknownExtension ('?' :: '<' :: t.spell)) (t.spell.length + 2)

/-- Reads a condition; the cursor has passed its open parenthesis. -/
def readGiven (r : PatternReader) (start : Nat) : Except PatternError PatternReader := do
  let (name, c) ← r.cursor.name ')' "group name"
  let back := name.length + 1
  let r := { r with cursor := c }
  let (g, r) ←
    if Text.isName name then
      match r.named? name with
      | none => c.fail (.unknownGroupName name) back
      | some g => .ok (g, r)
    else
      match Text.readInteger 10 name with
      | .error _ => c.fail (.badGroupName name) back
      | .ok (.negSucc _) => c.fail (.badGroupName name) back
      | .ok (.ofNat g) =>
        if g = 0 then c.fail .zeroGroup back
        else if groupLimit ≤ g then c.fail (.unknownGroup g) back
        else if (r.conditions.lookup g).isSome then .ok (g, r)
        else .ok (g, { r with conditions := r.conditions ++ [(g, c.position - back)] })
  r.checkBehind g
  .ok (r.openFrame (.given g) start r.frame.flags)

/-- Steps over a comment in parentheses, which began at `start`. -/
def skipComment (start : Nat) : (limit : Nat) → Cursor → Except PatternError Cursor
  | 0, c => .ok c
  | limit + 1, c => do
    match c.next with
    | none => c.fail .unterminatedComment (c.position - start)
    | some t =>
      let c ← c.advance
      if t = .plain ')' then .ok c else skipComment start limit c

/-- Steps over a comment that goes to the end of the line. -/
def skipLine : (limit : Nat) → Cursor → Except PatternError Cursor
  | 0, c => .ok c
  | limit + 1, c => do
    match c.next with
    | none => .ok c
    | some t =>
      let c ← c.advance
      if t = .plain '\n' then .ok c else skipLine limit c

/-- Reads flags, or a group with flags; the cursor has passed their first token `t`. -/
def readFlags (r : PatternReader) (start : Nat) (t : PatternToken) :
    Except PatternError PatternReader := do
  let (inlineFlags, c) ← InlineFlags.read t r.cursor
  let r := { r with cursor := c }
  match inlineFlags with
  | .group on off => .ok (r.openFrame .flagged start (r.frame.flags.override on off))
  | .whole on =>
    if r.outer.isEmpty ∧ r.frame.branches.isEmpty ∧ r.frame.pieces.isEmpty then
      .ok { r with
        flags := r.flags ||| on
        frame := { r.frame with flags := r.frame.flags ||| on } }
    else r.failAt start .lateFlags

/-- Reads what an open parenthesis at `start` begins; the cursor has passed it. -/
def readGroup (r : PatternReader) (start : Nat) : Except PatternError PatternReader := do
  match ← r.cursor.skip? '?' with
  | none => .ok (r.openCapture start)
  | some c =>
    match c.next with
    | none => c.fail .unexpectedEnd 0
    | some t =>
      let c ← c.advance
      let r := { r with cursor := c }
      match t with
      | .plain 'P' => r.readNamed start
      | .plain ':' => .ok (r.openFrame .plain start r.frame.flags)
      | .plain '#' => .ok { r with cursor := ← skipComment start (c.rest.length + 1) c }
      | .plain '=' => .ok (r.openFrame (.ahead false) start r.frame.flags)
      | .plain '!' => .ok (r.openFrame (.ahead true) start r.frame.flags)
      | .plain '<' => r.readBehind start
      | .plain '(' => r.readGiven start
      | .plain '>' => .ok (r.openFrame .atomic start r.frame.flags)
      | _ =>
        if t = .plain '-' ∨ (InlineFlags.ofToken? t).isSome then r.readFlags start t
        else c.fail (.unknownExtension ('?' :: t.spell)) (t.spell.length + 1)

/-- Reads what the character `d`, which the cursor has passed, begins. -/
def readPlain (r : PatternReader) (d : Char) : Except PatternError PatternReader := do
  let start := r.cursor.position - 1
  if r.frame.flags.has Flags.verbose ∧ Text.isAsciiBlank d then .ok r
  else if r.frame.flags.has Flags.verbose ∧ d = '#' then
    .ok { r with cursor := ← skipLine (r.cursor.rest.length + 1) r.cursor }
  else match d with
    | '[' =>
      let (test, c) ← CharacterSet.read r.cursor
      .ok ({ r with cursor := c }.pushTest test)
    | '?' => r.quantify start 0 (some 1)
    | '*' => r.quantify start 0 none
    | '+' => r.quantify start 1 none
    | '{' => r.readBraces
    | '.' => .ok (r.pushTest (.any (r.frame.flags.has Flags.dotAll)))
    | '(' => r.readGroup start
    | '^' =>
      .ok (r.push (.single (.anchor
        (if r.frame.flags.has Flags.multiline then .lineStart else .textStart))))
    | '$' =>
      .ok (r.push (.single (.anchor
        (if r.frame.flags.has Flags.multiline then .lineEnd else .lastLineEnd))))
    | _ => .ok (r.pushTest (.code d.toNat false))

/-- Checks the flags of the whole pattern once its end has been reached. -/
def checkFlags (r : PatternReader) : Except PatternError Unit :=
  if r.flags.has Flags.locale then .error .localeReading
  else if r.flags.has Flags.ascii ∧ r.flags.has Flags.unicode then .error .twoReadings
  else .ok ()

/-- The tree, at the end of the pattern. -/
def finish (r : PatternReader) : Except PatternError PatternTree := do
  if r.outer.isEmpty then
    r.checkFlags
    match r.conditions.find? fun (g, _) => r.widths.length < g with
    | some (g, position) => r.failAt position (.unknownGroup g)
    | none =>
      .ok ⟨.ofList (Branch.join r.allBranches), r.widths.map (·.getD (0, 0)), r.flags⟩
  else r.failAt r.frame.start .unterminatedGroup

/-- Takes the next token `t` and what belongs to it. -/
def step (r : PatternReader) (t : PatternToken) : Except PatternError PatternReader := do
  match t with
  | .plain '|' =>
    if r.frame.opening.isGiven && r.frame.branches.length == 1 then
      r.cursor.fail .tooManyBranches 0
    else .ok { r.nextBranch with cursor := ← r.cursor.advance }
  | .plain ')' =>
    match r.outer with
    | [] =>
      r.checkFlags
      r.cursor.fail .unbalancedParenthesis 0
    | outer :: rest => .ok ({ r with cursor := ← r.cursor.advance }.close outer rest)
  | .plain d => readPlain { r with cursor := ← r.cursor.advance } d
  | .escaped e => readEscape { r with cursor := ← r.cursor.advance } e
  | .dangling => .ok { r with cursor := ← r.cursor.advance }

/-- Reads on to the end. Each step takes a token, so a `limit` of one more than there are tokens is
never reached. -/
def run : (limit : Nat) → PatternReader → Except PatternError PatternTree
  | 0, r => r.finish
  | limit + 1, r =>
    match r.cursor.next with
    | none => r.finish
    | some t => do run limit (← r.step t)

/-- The reader at the start of a pattern. -/
def start (cursor : Cursor) (flags : Flags) : PatternReader where
  cursor
  flags
  names := []
  widths := []
  behind := none
  conditions := []
  frame := ⟨.plain, 0, [], [], flags⟩
  outer := []

end PatternReader

/-- Reads the text of a pattern. -/
def PatternTree.read (pattern : Text) (flags : Flags) : Except PatternError PatternTree := do
  let cursor ← Cursor.start pattern
  PatternReader.run (cursor.rest.length + 1) (.start cursor flags)

end Substitution
