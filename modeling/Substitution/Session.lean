import Substitution.Settings

/-!
# Sessions

A session works on one text, step by step, with the options, rules and named templates that it has
gathered. `Substitution.Session.step` takes one step: it gives the answer of the step and the
session after it. A step that fails gives the reason and changes nothing.
-/

namespace Substitution

/-- What a session has gathered. -/
structure Session where
  text : Text := []
  options : Options := {}
  rules : List Rule := []
  /-- The named templates, the last one first. -/
  templates : List (Text × Template) := []

namespace Session

/-- A step of a session. -/
inductive Step where
  | setText (text : Text)
  /-- Takes the options that a mapping gives. -/
  | setOptions (entries : List (Value × Value))
  /-- Takes the options that a file gives. -/
  | loadOptions (files : Files) (path : Text)
  | override (switches : Overrides)
  /-- Keeps a template under a name. -/
  | compile (name template : Text)
  /-- Renders a named template. -/
  | render (name : Text) (captures : List Text)
  /-- Substitutes in the text by a template. -/
  | substitute (pattern template : Text)
  /-- Substitutes in the text by a named template. -/
  | substituteNamed (pattern name : Text)
  /-- Appends a rule under the present options. -/
  | addRule (pattern replacement : Text)
  /-- Takes the rules that a file gives. -/
  | loadRules (files : Files) (path : Text)
  /-- Applies all rules to the text. -/
  | applyRules

/-- What a step answers. -/
inductive Answer where
  | done
  | rendered (text : Text)
  | counted (count : Nat)
deriving Repr, DecidableEq

/-- Why a step fails. -/
inductive Failure where
  | options (e : OptionsError)
  | settings (e : SettingsError)
  | template (e : Template.Error)
  | reference (e : UnknownReference)
  | substitute (e : SubstituteError)
  /-- No template has the name. -/
  | unknownName (name : Text)

/-- The message of a step that fails. -/
def Failure.message : Failure → Text
  | options e => e.message
  | settings e => e.message
  | template e => e.message
  | reference e => e.message
  | substitute e => e.message
  | unknownName name => Text.quoted name

/-- The template of a name. -/
def named (s : Session) (name : Text) : Except Failure Template :=
  match s.templates.lookup name with
  | some t => .ok t
  | none => .error (.unknownName name)

/-- Substitutes in the text, under the present options. -/
def replace (s : Session) (pattern : Text) (template : Text ⊕ Template) :
    Except Failure (Answer × Session) := do
  let r ← (substituteText s.options.all s.options.flags s.text pattern template).mapError
    .substitute
  .ok (.counted r.count, { s with text := r.text })

/-- The answer of a step and the session after it, unless the step fails. -/
def attempt (s : Session) : Step → Except Failure (Answer × Session)
  | .setText text => .ok (.done, { s with text })
  | .setOptions entries => do
    let options ← (Options.ofMapping "options".toList entries).mapError .options
    .ok (.done, { s with options })
  | .loadOptions files path => do
    let options ← (Options.load files path).mapError .settings
    .ok (.done, { s with options })
  | .override switches => .ok (.done, { s with options := s.options.override switches })
  | .compile name template => do
    let t ← (Template.compile template).mapError .template
    .ok (.done, { s with templates := (name, t) :: s.templates })
  | .render name captures => do
    let t ← s.named name
    let text ← (t.render captures).mapError .reference
    .ok (.rendered text, s)
  | .substitute pattern template => s.replace pattern (.inl template)
  | .substituteNamed pattern name => do
    s.replace pattern (.inr (← s.named name))
  | .addRule pattern replacement => do
    let rule ← (Rule.make pattern replacement s.options).mapError .template
    .ok (.done, { s with rules := s.rules ++ [rule] })
  | .loadRules files path => do
    let rules ← (Rule.load files path).mapError .settings
    .ok (.done, { s with rules })
  | .applyRules => do
    let r ← (Rule.applyAll s.text s.rules).mapError .substitute
    .ok (.counted r.count, { s with text := r.text })

/-- The answer of a step, or why it fails, and the session after it. -/
def step (s : Session) (action : Step) : Except Failure Answer × Session :=
  match s.attempt action with
  | .ok (answer, after) => (.ok answer, after)
  | .error e => (.error e, s)

/-- The answers of steps taken one after another, each with the session after it. -/
def run (s : Session) : List Step → List (Except Failure Answer × Session)
  | [] => []
  | action :: rest =>
    let taken := s.step action
    taken :: run taken.2 rest

end Session

end Substitution
