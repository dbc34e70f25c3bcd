import Substitution.Rule.Basic

/-!
# Writing rules files

The written form of rules: an entry for each of them, with its pattern and its replacement in single
quotes, where a quote is written twice, and with all of its options. A text that stands on one line
can be written so; a file without entries is empty.
-/

namespace Substitution

/-- A rule as an entry of a rules file says it. -/
structure RuleEntry where
  pattern : Text
  replacement : Text
  all : Bool
  ignoreCase : Bool
  multiline : Bool
  dotAll : Bool
deriving Repr, DecidableEq

namespace RuleEntry

/-- A text in single quotes. -/
def singleQuoted (t : Text) : Text :=
  '\'' :: t.flatMap (fun c => if c = '\'' then ['\'', '\''] else [c]) ++ ['\'']

/-- The word for a truth value. -/
def word (b : Bool) : Text :=
  if b then "true".toList else "false".toList

/-- A line with a key and its value. -/
def line (key : String) (value : Text) : Text :=
  key.toList ++ ": ".toList ++ value ++ ['\n']

/-- The lines of an entry. -/
def text (e : RuleEntry) : Text :=
  line "- pattern" (singleQuoted e.pattern) ++ line "  replacement" (singleQuoted e.replacement) ++
    line "  global" (word e.all) ++ line "  ignorecase" (word e.ignoreCase) ++
    line "  multiline" (word e.multiline) ++ line "  dotall" (word e.dotAll)

/-- The text of a rules file. -/
def fileText (entries : List RuleEntry) : Text :=
  entries.flatMap text

/-- The options that an entry gives. -/
def options (e : RuleEntry) : Options :=
  ⟨e.all, Overrides.flags ⟨false, e.ignoreCase, e.multiline, e.dotAll⟩⟩

end RuleEntry

end Substitution
