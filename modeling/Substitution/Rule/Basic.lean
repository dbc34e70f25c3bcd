import Substitution.Options
import Substitution.Substitute

/-!
# Rules

A **rule** is a pattern with its replacement and the options under which it is applied; the template
that the replacement writes is kept with it. `Substitution.Rule.applyAll` applies rules one after
another, each to the text that the ones before it have produced.
-/

namespace Substitution

/-- A pattern, its replacement, and how it is applied. -/
structure Rule where
  pattern : Text
  replacement : Text
  options : Options
  /-- What is written for a match. -/
  template : Template
deriving Repr, DecidableEq

namespace Rule

/-- The rule whose template is the one that its replacement writes. -/
def make (pattern replacement : Text) (options : Options) : Except Template.Error Rule := do
  .ok ⟨pattern, replacement, options, ← Template.compile replacement⟩

/-- Applies a rule to a text. -/
def apply (r : Rule) (text : Text) : Except SubstituteError Replaced :=
  substituteText r.options.all r.options.flags text r.pattern (.inr r.template)

/-- Applies rules one after another and counts all replacements. -/
def applyAll (text : Text) : List Rule → Except SubstituteError Replaced
  | [] => .ok ⟨text, 0⟩
  | r :: rest => do
    let first ← r.apply text
    let others ← applyAll first.text rest
    .ok ⟨others.text, first.count + others.count⟩

end Rule

end Substitution
