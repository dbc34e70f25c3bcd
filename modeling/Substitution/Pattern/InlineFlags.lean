import Substitution.Pattern.Cursor
import Substitution.Pattern.Flags
import Substitution.Text.Word

/-!
# Flags written in a pattern

Flags stand after `(?`: letters that turn flags on, and after a hyphen letters that turn flags off.
A closing parenthesis ends flags for the whole pattern, a colon those for a group.
-/

namespace Substitution

/-- What flags written in a pattern apply to. -/
inductive InlineFlags where
  /-- Flags turned on for the whole pattern. -/
  | whole (on : Flags)
  /-- Flags turned on and off for a group. -/
  | group (on off : Flags)
deriving Repr, DecidableEq

namespace InlineFlags

/-- The flag that a letter stands for. -/
def flag? (c : Char) : Option Flags :=
  match c with
  | 'i' => some Flags.ignoreCase
  | 'L' => some Flags.locale
  | 'm' => some Flags.multiline
  | 's' => some Flags.dotAll
  | 'x' => some Flags.verbose
  | 'a' => some Flags.ascii
  | 't' => some Flags.rigid
  | 'u' => some Flags.unicode
  | _ => none

/-- The flag that a token stands for. -/
def ofToken? : PatternToken → Option Flags
  | .plain c => flag? c
  | _ => none

/-- The fault of a token, just passed, that is neither a flag nor one of the `wanted` characters. -/
def notFlag (t : PatternToken) (missing : PatternFault) (c : Cursor) : Except PatternError α :=
  match t with
  | .plain d => c.fail (if Text.isLetter d then .unknownFlag else missing) 1
  | _ => c.fail missing t.spell.length

/-- What may follow flags that are turned on. -/
def afterOn : PatternFault := .missingAfterFlags "-, : or )".toList

/-- What may follow flags that are turned off. -/
def afterOff : PatternFault := .missingAfterFlags ":".toList

/-- Reads on after the token `t`, which turns a flag on or ends such flags; `on` are the flags
turned on so far. Gives the ending character too. -/
def readOn (on : Flags) : (limit : Nat) → PatternToken → Cursor →
    Except PatternError (Flags × Char × Cursor)
  | 0, _, c => c.fail afterOn 0
  | limit + 1, t, c => do
    match ofToken? t with
    | none => notFlag t afterOn c
    | some f =>
      if f = Flags.locale then c.fail .localeFlag 0
      else
        let on := on ||| f
        if f.has Flags.readings ∧ on &&& Flags.readings ≠ f then c.fail .incompatibleFlags 0
        else match c.next with
          | none => c.fail afterOn 0
          | some u =>
            let c ← c.advance
            match u with
            | .plain ')' => .ok (on, ')', c)
            | .plain '-' => .ok (on, '-', c)
            | .plain ':' => .ok (on, ':', c)
            | _ => readOn on limit u c

/-- Reads on after the token `t`, which turns a flag off; `off` are the flags turned off so far. -/
def readOff (missing : PatternFault) (off : Flags) : (limit : Nat) → PatternToken → Cursor →
    Except PatternError (Flags × Cursor)
  | 0, _, c => c.fail missing 0
  | limit + 1, t, c => do
    match ofToken? t with
    | none => notFlag t missing c
    | some f =>
      if f.has Flags.readings then c.fail .readingTurnedOff 0
      else match c.next with
        | none => c.fail afterOff 0
        | some u =>
          let c ← c.advance
          if u = .plain ':' then .ok (off ||| f, c) else readOff afterOff (off ||| f) limit u c

/-- Reads flags whose first token `t` the cursor has passed. -/
def read (t : PatternToken) (c : Cursor) : Except PatternError (InlineFlags × Cursor) := do
  let limit := c.rest.length + 1
  let (on, ending, c) ←
    if t = .plain '-' then .ok ((0 : Flags), '-', c) else readOn 0 limit t c
  if ending = ')' then .ok (.whole on, c)
  else if on.has Flags.rigid then c.fail .wholePatternFlagOn 1
  else
    let (off, c) ←
      if ending = '-' then
        match c.next with
        | none => c.fail .missingFlag 0
        | some u => readOff .missingFlag 0 limit u (← c.advance)
      else .ok ((0 : Flags), c)
    if off.has Flags.rigid then c.fail .wholePatternFlagOff 1
    else if on.has off then c.fail .flagOnAndOff 1
    else .ok (.group on off, c)

end InlineFlags

end Substitution
