import Substitution.Pattern.Basic
import Substitution.Template.Reader

/-!
# Substitution

`Substitution.substitute` replaces the matches of a pattern in a text by a rendered template. The
matches are those in the source, all of them or only the first; what lies between them is copied, so
replacement text is never searched again. Each match is rendered when it is found, before the search
goes on, so a search that breaks off does so behind the last match that has been rendered.

`Substitution.substituteGiven` starts from a pattern and a template each of which is a text or has
been compiled before, and `Substitution.substituteText` from the text of a pattern. The template is
read first, so a malformed template is reported even if the pattern is malformed too.
-/

namespace Substitution

/-- A text after replacements, and the number of matches that were replaced. -/
structure Replaced where
  text : Text
  count : Nat
deriving Repr, DecidableEq

/-- Why a substitution failed. -/
inductive SubstituteError where
  | template (e : Template.Error)
  | pattern (e : PatternError)
  | reference (e : UnknownReference)
  | search (e : SearchFault)
deriving Repr, DecidableEq

/-- The message of a substitution that failed. -/
def SubstituteError.message : SubstituteError → Text
  | template e => e.message
  | pattern e => e.message
  | reference e => e.message
  | search e => e.message

/-- What is left of a source, each of the matches in it replaced; `cursor` is the number of
characters before it. -/
def splice (t : Template) : (cursor : Nat) → (left : Text) → List Match →
    Except UnknownReference Text
  | _, left, [] => .ok left
  | cursor, left, m :: rest => do
    let replacement ← t.render m.captures
    let after ← splice t m.stop (left.drop (m.stop - cursor)) rest
    .ok (left.take (m.start - cursor) ++ replacement ++ after)

/-- The search for the matches that are replaced: all of them, or only the first. -/
def replacedScan (all : Bool) (p : Pattern) (source : Text) : Scan :=
  if all then p.scan source else p.scanFirst source

/-- Replaces the matches of a pattern: all of them, or only the first. -/
def substitute (all : Bool) (source : Text) (p : Pattern) (t : Template) :
    Except SubstituteError Replaced := do
  let scan := replacedScan all p source
  let text ← (splice t 0 source scan.found).mapError .reference
  match scan.fault with
  | some e => .error (.search e)
  | none => .ok ⟨text, scan.found.length⟩

/-- Replaces the matches of a pattern by a template, each of which is given as a text or compiled.
The flags are those under which the text of a pattern is read; a compiled pattern has its own. -/
def substituteGiven (all : Bool) (flags : Flags) (source : Text) (pattern : Text ⊕ Pattern)
    (template : Text ⊕ Template) : Except SubstituteError Replaced := do
  let t ← match template with
    | .inl text => (Template.compile text).mapError .template
    | .inr t => .ok t
  let p ← match pattern with
    | .inl text => (Pattern.compile text flags).mapError .pattern
    | .inr p => .ok p
  substitute all source p t

/-- Replaces the matches of a pattern that is given as a text with its flags, by a template that is
given as a text or compiled. -/
def substituteText (all : Bool) (flags : Flags) (source pattern : Text)
    (template : Text ⊕ Template) : Except SubstituteError Replaced :=
  substituteGiven all flags source (.inl pattern) template

end Substitution
