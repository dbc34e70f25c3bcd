import Substitution.Text.Basic

/-!
# Reading UTF-8

Bytes are read as UTF-8 without any leniency: overlong forms, surrogates and code points above
U+10FFFF are refused. A fault names the first byte that does not begin a character, how many bytes
belong to the attempt, and why it failed: the byte begins no character, a byte after it does not
continue the character, or the bytes end too early.
-/

namespace Substitution

namespace Text

/-- Why bytes do not begin a character. -/
inductive Utf8Fault where
  | start
  | continuation
  | truncated
deriving Repr, DecidableEq

/-- A place where bytes are no UTF-8. -/
structure Utf8Error where
  /-- The position of the first byte of the attempt. -/
  position : Nat
  /-- The first byte of the attempt. -/
  byte : UInt8
  /-- How many bytes belong to the attempt. -/
  length : Nat
  fault : Utf8Fault
deriving Repr, DecidableEq

/-- The words for a fault. -/
def Utf8Fault.message : Utf8Fault → Text
  | start => "invalid start byte".toList
  | continuation => "invalid continuation byte".toList
  | truncated => "unexpected end of data".toList

/-- The message of bytes that are no UTF-8. -/
def Utf8Error.message (e : Utf8Error) : Text :=
  "'utf-8' codec can't decode byte".toList ++
    (if e.length = 1 then
      " 0x".toList ++ hex 2 e.byte.toNat ++ " in position ".toList ++ decimal e.position
    else
      "s in position ".toList ++ decimal e.position ++ '-' ::
        decimal (e.position + e.length - 1)) ++
    ": ".toList ++ e.fault.message

/-- The range of the byte after a first byte, which excludes overlong forms, surrogates and too
great code points. -/
def secondRange (b : UInt8) : UInt8 × UInt8 :=
  if b = 0xE0 then (0xA0, 0xBF)
  else if b = 0xED then (0x80, 0x9F)
  else if b = 0xF0 then (0x90, 0xBF)
  else if b = 0xF4 then (0x80, 0x8F)
  else (0x80, 0xBF)

/-- How many bytes follow a first byte; nothing if it begins no character. -/
def following? (b : UInt8) : Option Nat :=
  if b < 0x80 then some 0
  else if b < 0xC2 then none
  else if b < 0xE0 then some 1
  else if b < 0xF0 then some 2
  else if b < 0xF5 then some 3
  else none

/-- The value bits of a first byte which `following` bytes follow. -/
def leadBits (b : UInt8) (following : Nat) : Nat :=
  if following = 0 then b.toNat else b.toNat % Nat.pow 2 (6 - following)

/-- Reads bytes, in the middle of a character: `first` is its first byte, at `start`; `taken` bytes
of it have been read, with the value `code`; `wanted` are to follow, the next one in the range
`range`. -/
def decodeRest (first : UInt8) (start : Nat) : (taken : Nat) → (code : Nat) → (wanted : Nat) →
    (range : UInt8 × UInt8) → List UInt8 → Except Utf8Error Text
  | _, code, 0, _, [] => .ok [Char.ofNat code]
  | taken, _, _ + 1, _, [] => .error ⟨start, first, taken, .truncated⟩
  | taken, code, 0, _, b :: rest =>
    match following? b with
    | none => .error ⟨start + taken, b, 1, .start⟩
    | some n =>
      (decodeRest b (start + taken) 1 (leadBits b n) n (secondRange b) rest).map
        (Char.ofNat code :: ·)
  | taken, code, wanted + 1, range, b :: rest =>
    if range.1 ≤ b ∧ b ≤ range.2 then
      decodeRest first start (taken + 1) (code * 64 + b.toNat % 64) wanted (0x80, 0xBF) rest
    else .error ⟨start, first, taken, .continuation⟩

/-- The text that bytes encode. -/
def decodeUtf8 : List UInt8 → Except Utf8Error Text
  | [] => .ok []
  | b :: rest =>
    match following? b with
    | none => .error ⟨0, b, 1, .start⟩
    | some n => decodeRest b 0 1 (leadBits b n) n (secondRange b) rest

/-- The text with every line end, written as carriage return, line feed or both, as a line feed. -/
def unifyLines : Text → Text
  | [] => []
  | '\r' :: '\n' :: rest => '\n' :: unifyLines rest
  | c :: rest => (if c = '\r' then '\n' else c) :: unifyLines rest

end Text

end Substitution
