import Substitution.Files
import Substitution.Pattern.Basic
import Substitution.Pattern.Warning

/-!
# The log of a run

What a run tells before it reports anything: lines for whoever follows its work, and warnings about
the patterns that are compiled on the way. Work records **events**, and
`Substitution.CommandLine.linesFrom` turns them into lines of the log.

Only the warnings need a **memory**. A pattern that has been compiled is kept with its flags, and as
long as it is kept it is not read again, so nothing is said of it again; a text that turns out to be
no pattern is not kept. The number of patterns that are kept is bounded, and the one that was
compiled first is given up first. Besides, a warning is given only once at each place of the program
(`Substitution.CompileSite`), whatever the pattern.
-/

namespace Substitution

namespace CommandLine

/-- A pattern that is compiled somewhere in the program. -/
structure Compilation where
  site : CompileSite
  pattern : Text
  flags : Flags
deriving Repr, DecidableEq

/-- What work records. -/
inductive Event where
  /-- A part of the program tells what it does. -/
  | told (source : String) (message : Text)
  | compiled (c : Compilation)
deriving Repr, DecidableEq

/-- A line of the log. -/
inductive LogLine where
  /-- A part of the program tells what it does. -/
  | told (source : String) (message : Text)
  /-- A warning, with the line of the program at which it is given. -/
  | warning (origin : SourceLine) (w : PatternWarning)
deriving Repr, DecidableEq

/-- The text of a line of the log. That of a warning quotes the line of the program below it. -/
def LogLine.text : LogLine → Text
  | told source message => source.toList ++ " DEBUG ".toList ++ message
  | warning origin w =>
    origin.place ++ ": FutureWarning: ".toList ++ w.message ++
      if origin.text.isEmpty then [] else "\n  ".toList ++ origin.text

/-- Is it a warning? -/
def LogLine.isWarning : LogLine → Bool
  | told .. => false
  | warning .. => true

/-- What is remembered of the patterns that have been compiled. -/
structure Memory where
  /-- The patterns that are kept, the latest first. -/
  patterns : List (Text × Flags) := []
  /-- The warnings that have been given, and where. -/
  warnings : List (CompileSite × PatternWarning) := []
deriving Repr, DecidableEq

namespace Memory

/-- The greatest number of patterns that are kept. -/
def capacity : Nat :=
  512

/-- The warnings that are given when a pattern is compiled. -/
def news (m : Memory) (c : Compilation) : List PatternWarning :=
  if (c.pattern, c.flags) ∈ m.patterns then []
  else (Pattern.warnings c.pattern c.flags).filter fun w => (c.site, w) ∉ m.warnings

/-- What is remembered once a pattern has been compiled. -/
def after (m : Memory) (c : Compilation) : Memory where
  patterns :=
    if (c.pattern, c.flags) ∈ m.patterns ∨ (Pattern.compile c.pattern c.flags).isOk = false then
      m.patterns
    else ((c.pattern, c.flags) :: m.patterns).take capacity
  warnings := (m.news c).map (c.site, ·) ++ m.warnings

end Memory

/-- The lines of the log that events give rise to. -/
def linesFrom (origin : CompileSite → SourceLine) : Memory → List Event → List LogLine
  | _, [] => []
  | m, .told source message :: rest => .told source message :: linesFrom origin m rest
  | m, .compiled c :: rest =>
    (m.news c).map (.warning (origin c.site)) ++ linesFrom origin (m.after c) rest

end CommandLine

end Substitution
