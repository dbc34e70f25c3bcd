import Substitution.Rule.Basic

/-!
# Entries of a rules file

A rules file holds a list, and each entry of it gives one rule: a mapping with the texts `pattern`
and `replacement`, and the keys of options beside them. The entries are checked in order, and in
each entry the checks have an order too, so the first thing that is wrong decides what is reported.
-/

namespace Substitution

/-- What is wrong with an entry of a rules file. -/
inductive EntryFault where
  /-- It is no mapping; its kind is given. -/
  | notMapping (kind : Text)
  | missingKeys (keys : List Text)
  /-- The value at a key is no text; its kind is given. -/
  | notText (key kind : Text)
  | options (e : OptionsError)
  | pattern (e : PatternError)
  | replacement (e : Template.Error)

/-- An entry of a rules file, counted from zero, that gives no rule. -/
structure EntryError where
  index : Nat
  fault : EntryFault

/-- Is the pattern at fault in a way that is reported with the name of the entry? Numbers in a
pattern that are too large or too long are reported by themselves. -/
def PatternError.isNamed : PatternError → Bool
  | .malformed .. => true
  | .defective _ => true
  | _ => false

namespace EntryError

/-- The name of an entry in messages. -/
def place (index : Nat) : Text :=
  "rules[".toList ++ Text.decimal index ++ [']']

/-- The message of an entry that gives no rule. -/
def message (e : EntryError) : Text :=
  let name := place e.index
  match e.fault with
  | .notMapping kind => '\'' :: name ++ "' must be a mapping, got ".toList ++ kind
  | .missingKeys keys =>
    '\'' :: name ++ "' is missing required keys: ".toList ++ Text.quotedList keys
  | .notText key kind => '\'' :: name ++ '.' :: key ++ "' must be a string, got ".toList ++ kind
  | .options fault => fault.message
  | .pattern fault =>
    if fault.isNamed then
      '\'' :: name ++ ".pattern' is not a valid regex: ".toList ++ fault.message
    else fault.message
  | .replacement fault => fault.message

end EntryError

namespace Rule

/-- The keys that every entry must have. -/
def requiredKeys : List String :=
  ["pattern", "replacement"]

/-- The text of a value that must be one. -/
def textOf (key : String) (v : Value) : Except EntryFault Text :=
  match v with
  | .str t => .ok t
  | v => .error (.notText key.toList v.kindName)

/-- What an entry says of its rule: two texts that have not been compiled yet, and the options. -/
structure Draft where
  pattern : Text
  replacement : Text
  options : Options
deriving Repr, DecidableEq

/-- What the entries of a mapping say of a rule. -/
def Draft.ofEntries (place : Text) (entries : List (Value × Value)) : Except EntryFault Draft :=
  match Value.lookup "pattern" entries, Value.lookup "replacement" entries with
  | some p, some r => do
    let pattern ← textOf "pattern" p
    let replacement ← textOf "replacement" r
    let rest := Value.erase "replacement" (Value.erase "pattern" entries)
    let options ← (Options.ofMapping place rest).mapError .options
    .ok ⟨pattern, replacement, options⟩
  | _, _ =>
    let missing := requiredKeys.filter fun key => (Value.lookup key entries).isNone
    .error (.missingKeys (missing.map String.toList))

/-- What an entry says of its rule. -/
def Draft.ofValue (place : Text) : Value → Except EntryFault Draft
  | .map entries => Draft.ofEntries place entries
  | v => .error (.notMapping v.kindName)

/-- The rule of a draft: its pattern must compile, and its replacement is compiled. -/
def Draft.finish (d : Draft) : Except EntryFault Rule := do
  let _ ← (Pattern.compile d.pattern d.options.flags).mapError .pattern
  (Rule.make d.pattern d.replacement d.options).mapError .replacement

/-- The rule that an entry of a rules file gives. -/
def ofValue (index : Nat) (v : Value) : Except EntryError Rule :=
  ((Draft.ofValue (EntryError.place index) v).bind Draft.finish).mapError (⟨index, ·⟩)

/-- The rules that the entries of a rules file give, counted from `index`. -/
def ofValues (index : Nat) : List Value → Except EntryError (List Rule)
  | [] => .ok []
  | v :: rest => do
    let rule ← ofValue index v
    let rules ← ofValues (index + 1) rest
    .ok (rule :: rules)

end Rule

end Substitution
