import Substitution.Text.Basic

/-!
# The demonstration

Substitutions with the text that each should give.
-/

namespace Substitution

namespace CommandLine

/-- A substitution and what it should give. -/
structure DemoCase where
  source : Text
  pattern : Text
  replacement : Text
  expected : Text
deriving Repr, DecidableEq

/-- The case that four words describe. -/
def DemoCase.ofStrings (source pattern replacement expected : String) : DemoCase :=
  ⟨source.toList, pattern.toList, replacement.toList, expected.toList⟩

/-- The cases that the program shows. -/
def demoCases : List DemoCase := [
  .ofStrings "aba" "a(.*?)a" "$1" "b",
  .ofStrings "ababab" "ab" "x" "xxx",
  .ofStrings "ababab" "(ab)" "$1x" "abxabxabx",
  .ofStrings "yyababaxxa" "a(.*?)a" "$1" "yybbxx",
  .ofStrings "acccb" "a(.*?)b" "$1\\$" "ccc$",
  .ofStrings "abxybaxy" "(x)(y)" "$\x7b2\x7d3$1" "aby3xbay3x"]

end CommandLine

end Substitution
