/-!
# Flags of a pattern

How a pattern is read and matched is set by flags. A set of flags is a number with one bit for each,
so that flags which are of no concern here can be carried along.
-/

namespace Substitution

/-- A set of flags, one bit each. -/
abbrev Flags := Nat

namespace Flags

/-- Repetitions are refused. -/
def rigid : Flags := 1
/-- Letter case makes no difference. -/
def ignoreCase : Flags := 2
/-- Character classes follow the locale; there is no such reading of a text. -/
def locale : Flags := 4
/-- `^` and `$` match at every line. -/
def multiline : Flags := 8
/-- The dot matches line feeds too. -/
def dotAll : Flags := 16
/-- Character classes and letter case are those of all of Unicode. -/
def unicode : Flags := 32
/-- Blanks and comments in the pattern are skipped. -/
def verbose : Flags := 64
/-- Character classes and letter case are those of ASCII. -/
def ascii : Flags := 256

/-- The flags that choose the reading of character classes; at most one can be in force. -/
def readings : Flags := ascii ||| locale ||| unicode

/-- Does the set share a flag with `f`? -/
def has (s f : Flags) : Bool :=
  s &&& f != 0

/-- The set without the flags of `f`. -/
def without (s f : Flags) : Flags :=
  s ^^^ (s &&& f)

/-- The flags inside a group that turns some on and some off: a reading that is turned on takes the
place of the one in force. -/
def override (s on off : Flags) : Flags :=
  ((if on.has readings then s.without readings else s) ||| on).without off

end Flags

end Substitution
