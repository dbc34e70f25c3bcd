import Substitution.CommandLine.Grammar
import Substitution.Options

/-!
# Invocations

What the program can be asked to do: to substitute in an input, to apply a rules file to it, to
check a template, or to show its demonstration. `Substitution.CommandLine.Invocation.read` reads the
arguments of the program.
-/

namespace Substitution

namespace CommandLine

/-- Where the text to work on comes from. -/
inductive Input where
  | standard
  | file (path : Text)
deriving Repr, DecidableEq

/-- What the program is asked to do. -/
inductive Command where
  | substitute (pattern replacement : Text) (options : Option Text) (switches : Overrides)
    (count : Bool) (input : Input)
  | apply (rules : Text) (count : Bool) (input : Input)
  | check (replacement : Text)
  | demo
deriving Repr, DecidableEq

/-- A command, and whether the program tells what it does. -/
structure Invocation where
  verbose : Bool
  command : Command
deriving Repr, DecidableEq

/-! ### Flags -/

/-- The name of the program. -/
def program : Text :=
  "safesub".toList

/-- Tells what is done. -/
def verboseFlag : Flag := { short := some 'v', long := "verbose" }
/-- The pattern to look for. -/
def patternFlag : Flag := { long := "pattern", takesValue := true, required := true }
/-- The template of the replacement. -/
def replacementFlag : Flag := { long := "replacement", takesValue := true, required := true }
/-- The options file. -/
def optionsFlag : Flag := { long := "options", takesValue := true }
/-- The rules file. -/
def rulesFlag : Flag := { long := "rules", takesValue := true, required := true }
/-- Reports the number of replacements. -/
def countFlag : Flag := { long := "count" }
/-- Replaces the first match only. -/
def firstFlag : Flag := { long := "first" }
/-- Ignores letter case. -/
def ignoreCaseFlag : Flag := { short := some 'i', long := "ignorecase" }
/-- Lets `^` and `$` match at every line. -/
def multilineFlag : Flag := { short := some 'm', long := "multiline" }
/-- Lets the dot match line feeds too. -/
def dotAllFlag : Flag := { short := some 's', long := "dotall" }

/-! ### Grammars -/

/-- The names of the commands. -/
def commands : List Text :=
  ["sub".toList, "apply".toList, "check".toList, "demo".toList]

/-- The arguments of the program. -/
def mainGrammar : Grammar :=
  ⟨program, [verboseFlag], .command commands⟩

/-- The arguments of a command. -/
def commandGrammar (name : String) (flags : List Flag) (operand : Operand) : Grammar :=
  ⟨program ++ ' ' :: name.toList, flags, operand⟩

/-- The arguments of the command that substitutes. -/
def substituteGrammar : Grammar :=
  commandGrammar "sub"
    [patternFlag, replacementFlag, optionsFlag, countFlag, firstFlag, ignoreCaseFlag, multilineFlag,
      dotAllFlag] .file

/-- The arguments of the command that applies rules. -/
def applyGrammar : Grammar :=
  commandGrammar "apply" [rulesFlag, countFlag] .file

/-- The arguments of the command that checks a template. -/
def checkGrammar : Grammar :=
  commandGrammar "check" [replacementFlag] .nothing

/-- The arguments of the command that shows the demonstration. -/
def demoGrammar : Grammar :=
  commandGrammar "demo" [] .nothing

namespace Arguments

/-- The input that is named; a dash names the standard one. -/
def input (a : Arguments) : Input :=
  match a.operands with
  | path :: _ => if path = ['-'] then .standard else .file path
  | [] => .standard

/-- The value given to a flag, or the empty text. -/
def valueOf (a : Arguments) (f : Flag) : Text :=
  (a.value? f).getD []

/-- The switches that are given. -/
def switches (a : Arguments) : Overrides :=
  ⟨a.has firstFlag, a.has ignoreCaseFlag, a.has multilineFlag, a.has dotAllFlag⟩

end Arguments

namespace Command

/-- Reads the arguments of a command. An options file without a name counts as not given. -/
def read (name : Text) (args : List Text) : Except Stop (Command × List Text) := do
  if name = "sub".toList then
    let a ← substituteGrammar.read args
    let options := (a.value? optionsFlag).filter fun path => !path.isEmpty
    .ok (.substitute (a.valueOf patternFlag) (a.valueOf replacementFlag) options a.switches
      (a.has countFlag) a.input, a.extras)
  else if name = "apply".toList then
    let a ← applyGrammar.read args
    .ok (.apply (a.valueOf rulesFlag) (a.has countFlag) a.input, a.extras)
  else if name = "check".toList then
    let a ← checkGrammar.read args
    .ok (.check (a.valueOf replacementFlag), a.extras)
  else if name = "demo".toList then
    let a ← demoGrammar.read args
    .ok (.demo, a.extras)
  else .error (.misuse program (.unknownCommand name commands))

end Command

/-- Reads the arguments of the program. -/
def Invocation.read (args : List Text) : Except Stop Invocation := do
  let a ← mainGrammar.read args
  let (command, extras) ← Command.read (a.operands.headD []) a.operands.tail
  let extras := a.extras ++ extras
  if extras.isEmpty then .ok ⟨a.has verboseFlag, command⟩
  else .error (.misuse program (.unrecognized extras))

end CommandLine

end Substitution
