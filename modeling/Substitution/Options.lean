import Substitution.Pattern.Flags
import Substitution.Value.Basic

/-!
# Options

How a substitution is carried out: whether all matches are replaced or only the first, and under
which flags the pattern is read. Options come from a mapping with the keys `global`, `ignorecase`,
`multiline` and `dotall`, each a truth value; `Substitution.Options.ofMapping` accepts exactly the
mappings that have no other key and no other value.

`Substitution.Options.override` layers switches on top, which only ever turn things on: restricting
to the first match, and adding flags.
-/

namespace Substitution

/-- How a substitution is carried out. -/
structure Options where
  /-- Are all matches replaced? Otherwise only the first is. -/
  all : Bool := true
  /-- The flags under which the pattern is read. -/
  flags : Flags := 0
deriving Repr, DecidableEq

/-- Why a mapping gives no options. -/
inductive OptionsError where
  /-- Some keys are unknown; these are their texts, in order. -/
  | unknownKeys (place : Text) (keys : List Text)
  /-- The value at a key is no truth value. -/
  | notBoolean (place key : Text) (value : Value)
  /-- A key or a value cannot be shown because it holds an integer with too many digits. -/
  | tooLongToShow

namespace OptionsError

/-- The keys that are allowed, in order. -/
def allowed : List Text :=
  ["dotall".toList, "global".toList, "ignorecase".toList, "multiline".toList]

/-- The message of a mapping that gives no options. -/
def message : OptionsError → Text
  | unknownKeys place keys =>
    "Unknown keys in '".toList ++ place ++ "': ".toList ++ Text.quotedList keys ++
      ". Allowed: ".toList ++ Text.quotedList allowed
  | notBoolean place key value =>
    '\'' :: place ++ '.' :: key ++ "' must be true or false, got ".toList ++ value.literal
  | tooLongToShow => Text.tooLongToWrite

end OptionsError

/-- Switches that are layered on top of options. -/
structure Overrides where
  firstOnly : Bool := false
  ignoreCase : Bool := false
  multiline : Bool := false
  dotAll : Bool := false
deriving Repr, DecidableEq

/-- The flags that the switches turn on. -/
def Overrides.flags (o : Overrides) : Flags :=
  (if o.ignoreCase then Flags.ignoreCase else 0) |||
    (if o.multiline then Flags.multiline else 0) ||| (if o.dotAll then Flags.dotAll else 0)

namespace Options

/-- Is the value one of the keys that options have? -/
def isKnownKey (key : Value) : Bool :=
  match key with
  | .str t => OptionsError.allowed.contains t
  | _ => false

/-- The truth value at a key, or the default if the key is absent. -/
def flagAt (place : Text) (entries : List (Value × Value)) (key : String) (default : Bool) :
    Except OptionsError Bool :=
  match Value.lookup key entries with
  | none => .ok default
  | some (.bool b) => .ok b
  | some v =>
    .error (if v.isTooLong then .tooLongToShow else .notBoolean place key.toList v)

/-- The options that a mapping gives. `place` names the mapping in messages. -/
def ofMapping (place : Text) (entries : List (Value × Value)) :
    Except OptionsError Options := do
  let unknown := (entries.map Prod.fst).filter fun k => !isKnownKey k
  if unknown.any Value.isTooLong then .error .tooLongToShow
  else if unknown ≠ [] then
    .error (.unknownKeys place ((unknown.map Value.plainText).mergeSort Text.le))
  else
    let all ← flagAt place entries "global" true
    let ignoreCase ← flagAt place entries "ignorecase" false
    let multiline ← flagAt place entries "multiline" false
    let dotAll ← flagAt place entries "dotall" false
    .ok ⟨all, Overrides.flags ⟨false, ignoreCase, multiline, dotAll⟩⟩

/-- The options with switches layered on top. -/
def override (o : Options) (switches : Overrides) : Options :=
  ⟨o.all && !switches.firstOnly, o.flags ||| switches.flags⟩

end Options

end Substitution
