import Substitution.Yaml.Token
import Substitution.Yaml.Scalar
import Substitution.Text.Utf8

/-!
# Anchors, aliases, tags and directives

The marks that begin with `&`, `*`, `!` or `%`, each read from a place in the document to what it
says and the place after it.
-/

namespace Substitution

namespace Yaml

/-- The name that begins here; there must be one. -/
def readName (c : Cursor) : Except Error (Text × Cursor) :=
  let (name, c) := c.span isNameChar
  if name.isEmpty then .error .malformed else .ok (name, c)

/-- Goes on if the next character satisfies a condition. -/
def require (p : Option Char → Bool) (c : Cursor) : Except Error Unit :=
  if p c.peek then .ok () else .error .malformed

/-- The name of the anchor or alias whose mark stands here. -/
def readAnchor (c : Cursor) : Except Error (Text × Cursor) := do
  let (name, c) ← readName c.next
  require (fun d => isGapOrTab d || d.any ("?:,]\x7d%@`".toList.contains ·)) c
  .ok (name, c)

/-! ### Tags -/

/-- May the character stand in a tag as it is, or begin an escape in it? -/
def isUriChar (c : Char) : Bool :=
  ('0' ≤ c && c ≤ '9') || ('A' ≤ c && c ≤ 'Z') || ('a' ≤ c && c ≤ 'z') ||
    "-;/?:@&=+$,_.!~*'()[]%".toList.contains c

/-- The bytes that escapes from here on stand for. -/
def uriBytes : (limit : Nat) → Cursor → Except Error (List UInt8 × Cursor)
  | 0, c => .ok ([], c)
  | limit + 1, c =>
    if c.peek = some '%' then
      let digits := c.next.rest.take 2
      if digits.length = 2 ∧ digits.all Text.isHexDigit then
        (uriBytes limit (c.next.skip 2)).map fun (more, c) =>
          (UInt8.ofNat (Text.ofHex digits) :: more, c)
      else .error .malformed
    else .ok ([], c)

/-- The part of a tag from here on. -/
def uriFrom : (limit : Nat) → Cursor → Except Error (Text × Cursor)
  | 0, c => .ok ([], c)
  | limit + 1, c =>
    match c.peek with
    | some '%' => do
      let (bytes, c) ← uriBytes (limit + 1) c
      match Text.decodeUtf8 bytes with
      | .error _ => .error .malformed
      | .ok text =>
        let (more, c) ← uriFrom limit c
        .ok (text ++ more, c)
    | some d =>
      if isUriChar d then (uriFrom limit c.next).map fun (more, c) => (d :: more, c)
      else .ok ([], c)
    | none => .ok ([], c)

/-- The part of a tag that begins here; there must be one. -/
def readUri (c : Cursor) : Except Error (Text × Cursor) := do
  let (uri, c') ← uriFrom (c.rest.length + 1) c
  if c'.index = c.index then .error .malformed else .ok (uri, c')

/-- The tag handle that begins here: an exclamation mark, or a name between two. -/
def readHandle (c : Cursor) : Except Error (Text × Cursor) :=
  if c.peek ≠ some '!' then .error .malformed
  else if c.peekAt 1 = some ' ' then .ok (['!'], c.next)
  else
    let (name, c) := c.next.span isNameChar
    if c.peek = some '!' then .ok ('!' :: name ++ ['!'], c.next) else .error .malformed

/-- The tag that begins here: its handle, unless it is written in full, and the rest. -/
def readTag (c : Cursor) : Except Error (Option Text × Text × Cursor) := do
  let (handle, suffix, c) ←
    if c.peekAt 1 = some '<' then do
      let (uri, c) ← readUri (c.skip 2)
      require (· = some '>') c
      .ok (none, uri, c.next)
    else if isGapOrTab (c.peekAt 1) then .ok (none, ['!'], c.next)
    else do
      let inner := c.next.rest.takeWhile fun d => !isGap (some d)
      let (handle, c) ← if inner.contains '!' then readHandle c else .ok (['!'], c.next)
      let (suffix, c) ← readUri c
      .ok (some handle, suffix, c)
  require isGap c
  .ok (handle, suffix, c)

/-! ### Directives -/

/-- A number of the version of the format. -/
def versionNumber (c : Cursor) : Except Error (Int × Cursor) :=
  let (digits, c) := c.span fun d => '0' ≤ d && d ≤ '9'
  if digits.isEmpty then .error .malformed
  else match Text.readInteger 10 digits with
    | .ok n => .ok (n, c)
    | .error e => .error (.scalar (.integer 10 digits e))

/-- The directive that begins here, and the place at the start of the next line. -/
def readDirective (c : Cursor) : Except Error (Directive × Cursor) := do
  let (name, c) ← readName c.next
  require isGap c
  let (directive, c) ←
    if name = "YAML".toList then do
      let (major, c) ← versionNumber c.skipSpaces
      require (· = some '.') c
      let (_, c) ← versionNumber c.next
      require isGap c
      .ok (.version major, c)
    else if name = "TAG".toList then do
      let (handle, c) ← readHandle c.skipSpaces
      require (· = some ' ') c
      let (uri, c) ← readUri c.skipSpaces
      require isGap c
      .ok (.handle handle uri, c)
    else .ok (.other, c.skipWhile fun d => !isBreak d)
  (restOfLine c).map fun c => (directive, c)

end Yaml

end Substitution
