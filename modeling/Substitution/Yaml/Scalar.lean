import Substitution.Yaml.Cursor
import Substitution.Yaml.Error

/-!
# The text of scalars

The four ways to write a scalar, each read from a place in the document to the text it stands for
and the place after it.

Line ends inside a scalar are **folded** in all but the literal block style: a single line end
becomes a space, and of several in a row the first one goes and the others stay. The Unicode
separators are never folded away.
-/

namespace Substitution

namespace Yaml

/-- What a line end and the empty lines after it are folded into. -/
def fold (lineBreak : Char) (more : Text) : Text :=
  (if lineBreak ≠ '\n' then [lineBreak] else if more.isEmpty then [' '] else []) ++ more

/-! ### Quoted scalars -/

/-- The empty lines at the start of a line inside quotes, and the place after them and after the
blanks that follow. A line that marks the start or the end of a document is an error. -/
def quotedBreaks : (limit : Nat) → Cursor → Except Error (Text × Cursor)
  | 0, c => .ok ([], c)
  | limit + 1, c =>
    if c.atMarker then .error .malformed
    else
      let c := c.skipWhile isBlank
      match c.lineBreak? with
      | none => .ok ([], c)
      | some (b, c) => (quotedBreaks limit c).map fun (more, c) => (b :: more, c)

/-- The character that a one-letter escape stands for. -/
def escape? (c : Char) : Option Char :=
  match c with
  | '0' => some (Char.ofNat 0)
  | 'a' => some (Char.ofNat 0x07)
  | 'b' => some (Char.ofNat 0x08)
  | 't' => some '\t'
  | '\t' => some '\t'
  | 'n' => some '\n'
  | 'v' => some (Char.ofNat 0x0B)
  | 'f' => some (Char.ofNat 0x0C)
  | 'r' => some '\r'
  | 'e' => some (Char.ofNat 0x1B)
  | ' ' => some ' '
  | '"' => some '"'
  | '\\' => some '\\'
  | '/' => some '/'
  | 'N' => some (Char.ofNat 0x85)
  | '_' => some (Char.ofNat 0xA0)
  | 'L' => some (Char.ofNat 0x2028)
  | 'P' => some (Char.ofNat 0x2029)
  | _ => none

/-- How many hexadecimal digits follow the letter of an escape. -/
def escapeDigits? (c : Char) : Option Nat :=
  match c with
  | 'x' => some 2
  | 'u' => some 4
  | 'U' => some 8
  | _ => none

/-- What an escape in double quotes stands for; the place is after its backslash. A code point that
is half of a surrogate pair is no character and cannot stand in a text; a null is put in its
place. -/
def readEscape (c : Cursor) : Except Error (Text × Cursor) :=
  match c.rest with
  | [] => .error .malformed
  | e :: _ =>
    match escape? e, escapeDigits? e with
    | some d, _ => .ok ([d], c.next)
    | none, some n =>
      let digits := c.next.rest.take n
      if digits.length = n ∧ digits.all Text.isHexDigit then
        let code := Text.ofHex digits
        if code < 0x110000 then .ok ([Char.ofNat code], c.next.skip n)
        else .error (.scalar (if code < 0x80000000 then .codePoint else .hugeCodePoint))
      else .error .malformed
    | none, none =>
      match c.lineBreak? with
      | some (_, c) => quotedBreaks (c.rest.length + 1) c
      | none => .error .malformed

/-- Reads a scalar inside quotes from some place in it on, up to its closing quote, which is double
or single; `blanks` are the blanks just before the place. -/
def quotedFrom (double : Bool) (blanks : Text) : (limit : Nat) → Cursor →
    Except Error (Text × Cursor)
  | 0, _ => .error .malformed
  | limit + 1, c =>
    match c.rest with
    | [] => .error .malformed
    | d :: rest =>
      let after (text : Text) (c : Cursor) : Except Error (Text × Cursor) :=
        (quotedFrom double [] limit c).map fun (more, c) => (text ++ more, c)
      if isBlank d then quotedFrom double (blanks ++ [d]) limit c.next
      else match c.lineBreak? with
      | some (b, c) => do
        let (more, c) ← quotedBreaks limit c
        after (fold b more) c
      | none =>
        if double then
          if d = '"' then .ok (blanks, c.next)
          else if d = '\\' then do
            let (text, c) ← readEscape c.next
            after (blanks ++ text) c
          else after (blanks ++ [d]) c.next
        else if d = '\'' then
          if rest.head? = some '\'' then after (blanks ++ ['\'']) c.next.next
          else .ok (blanks, c.next)
        else after (blanks ++ [d]) c.next

/-- Reads a quoted scalar that begins here. -/
def readQuoted (double : Bool) (c : Cursor) : Except Error (Text × Cursor) :=
  quotedFrom double [] (c.rest.length + 1) c.next

/-! ### Plain scalars -/

/-- The characters of a plain scalar up to the next gap: also a colon before a gap ends it, and
inside brackets (`flow`) some indicators do. -/
def plainRun (flow : Bool) : Text → Text
  | [] => []
  | c :: rest =>
    let colonEnds := isGapOrTab rest.head? ||
      (flow && rest.head?.any (",[]\x7b\x7d".toList.contains ·))
    if isGapOrTab (some c) || (c == ':' && colonEnds) ||
        (flow && ",?[]\x7b\x7d".toList.contains c) then []
    else c :: plainRun flow rest

/-- The empty lines inside a plain scalar and the place after them and after the spaces that follow;
nothing if a line marks the start or the end of a document. -/
def plainBreaks : (limit : Nat) → Cursor → Option Text × Cursor
  | 0, c => (some [], c)
  | limit + 1, c =>
    if c.atMarker then (none, c)
    else
      let c := c.skipSpaces
      match c.lineBreak? with
      | none => (some [], c)
      | some (b, c) =>
        let (more, c) := plainBreaks limit c
        (more.map (b :: ·), c)

/-- A plain scalar, read up to some place. -/
structure PlainState where
  text : Text
  /-- May a mapping key begin at the place, because a line has just begun? -/
  keyAllowed : Bool
  cursor : Cursor

/-- What separates two runs of a plain scalar: nothing if the scalar ends here. -/
def plainGap (c : Cursor) : Option Text × Bool × Cursor :=
  let (spaces, c) := c.span (· == ' ')
  match c.lineBreak? with
  | some (b, c) =>
    let (more, c) := plainBreaks (c.rest.length + 1) c
    (more.map (fold b), true, c)
  | none => (if spaces.isEmpty then none else some spaces, false, c)

/-- Reads on in a plain scalar whose lines must be indented by `indent` columns, unless it stands
inside brackets; `gap` separates what follows from the text read so far. -/
def plainFrom (flow : Bool) (indent : Int) (gap : Text) : (limit : Nat) → PlainState → PlainState
  | 0, st => st
  | limit + 1, st =>
    let run := plainRun flow st.cursor.rest
    if st.cursor.peek = some '#' ∨ run.isEmpty then st
    else
      let text := st.text ++ gap ++ run
      let (gap, keyAllowed, c) := plainGap (st.cursor.skip run.length)
      match gap with
      | none => ⟨text, keyAllowed, c⟩
      | some gap =>
        if c.peek = some '#' ∨ (!flow && (c.column : Int) < indent) then ⟨text, keyAllowed, c⟩
        else plainFrom flow indent gap limit ⟨text, keyAllowed, c⟩

/-- Reads a plain scalar that begins here. -/
def readPlain (flow : Bool) (indent : Int) (c : Cursor) : PlainState :=
  plainFrom flow indent [] (c.rest.length + 1) ⟨[], false, c⟩

/-! ### Block scalars -/

/-- What becomes of the line ends at the end of a block scalar. -/
inductive Chomping where
  | strip
  | clip
  | keep
deriving Repr, DecidableEq

/-- The chomping that an indicator asks for. -/
def chomping? (c : Char) : Option Chomping :=
  match c with
  | '+' => some .keep
  | '-' => some .strip
  | _ => none

/-- The indicators after the first character of a block scalar: the chomping, and the indentation if
it is given. -/
def blockIndicators (c : Cursor) : Except Error (Chomping × Option Nat × Cursor) :=
  let digit? (c : Cursor) : Option Nat :=
    (c.peek.filter fun d => '0' ≤ d && d ≤ '9').map fun d => d.toNat - '0'.toNat
  let (chomping, increment, c) :=
    match c.peek.bind chomping? with
    | some ch =>
      let c := c.next
      match digit? c with
      | some n => (ch, some n, c.next)
      | none => (ch, none, c)
    | none =>
      match digit? c with
      | some n =>
        let c := c.next
        match c.peek.bind chomping? with
        | some ch => (ch, some n, c.next)
        | none => (.clip, some n, c)
      | none => (.clip, none, c)
  if increment = some 0 ∨ !isGap c.peek then .error .malformed
  else .ok (chomping, increment, c)

/-- The place at the start of the next line, if only spaces and a comment stand before it. -/
def restOfLine (c : Cursor) : Except Error Cursor :=
  let c := c.skipSpaces.skipComment
  if isLineEnd c.peek then .ok ((c.lineBreak?.map Prod.snd).getD c) else .error .malformed

/-- The empty lines at the start of a block scalar whose indentation is not given, the greatest
indentation among them and the first line with text, and the place of that text. -/
def blockStart : (limit : Nat) → (deepest : Nat) → Cursor → Text × Nat × Cursor
  | 0, deepest, c => ([], deepest, c)
  | limit + 1, deepest, c =>
    let c := c.skipSpaces
    let deepest := max deepest c.column
    match c.lineBreak? with
    | none => ([], deepest, c)
    | some (b, c) =>
      let (more, deepest, c) := blockStart limit deepest c
      (b :: more, deepest, c)

/-- The place after spaces, at most up to a column. -/
def skipIndent (indent : Nat) (c : Cursor) : Cursor :=
  c.skip (min (indent - c.column) (c.rest.takeWhile (· == ' ')).length)

/-- The empty lines of a block scalar and the place after the indentation that follows. -/
def blockBreaks (indent : Nat) : (limit : Nat) → Cursor → Text × Cursor
  | 0, c => ([], c)
  | limit + 1, c =>
    let c := skipIndent indent c
    match c.lineBreak? with
    | none => ([], c)
    | some (b, c) =>
      let (more, c) := blockBreaks indent limit c
      (b :: more, c)

/-- The lines of a block scalar, given the empty lines before the place: the text up to the end of
the last line, that line end, and the empty lines after it. -/
def blockLines (folded : Bool) (indent : Nat) (breaks : Text) : (limit : Nat) → Cursor →
    Text × Text × Text × Cursor
  | 0, c => ([], [], breaks, c)
  | limit + 1, c =>
    if c.column ≠ indent ∨ c.peek = none then ([], [], breaks, c)
    else
      let (line, c') := c.span fun d => !isBreak d
      let (lineBreak, c') := match c'.lineBreak? with
        | some (b, c') => ([b], c')
        | none => ([], c')
      let (more, c') := blockBreaks indent (c'.rest.length + 1) c'
      if c'.column ≠ indent ∨ c'.peek = none then (breaks ++ line, lineBreak, more, c')
      else
        let plainStart (c : Cursor) := !(c.peek.any isBlank)
        let joint :=
          if folded && lineBreak == ['\n'] && plainStart c && plainStart c' then
            if more.isEmpty then [' '] else []
          else lineBreak
        let (text, lineBreak, tail, c') := blockLines folded indent more limit c'
        (breaks ++ line ++ joint ++ text, lineBreak, tail, c')

/-- Reads a block scalar that begins here; `parent` is the indentation around it. -/
def readBlock (folded : Bool) (parent : Int) (c : Cursor) : Except Error (Text × Cursor) := do
  let (chomping, increment, c) ← blockIndicators c.next
  let c ← restOfLine c
  let least := (parent + 1).toNat.max 1
  let limit := c.rest.length + 1
  let (breaks, indent, c) := match increment with
    | none =>
      let (breaks, deepest, c) := blockStart limit 0 c
      (breaks, max least deepest, c)
    | some n =>
      let indent := least + n - 1
      let (breaks, c) := blockBreaks indent limit c
      (breaks, indent, c)
  let (text, lineBreak, tail, c) := blockLines folded indent breaks limit c
  .ok (match chomping with
    | .strip => text
    | .clip => text ++ lineBreak
    | .keep => text ++ lineBreak ++ tail, c)

end Yaml

end Substitution
