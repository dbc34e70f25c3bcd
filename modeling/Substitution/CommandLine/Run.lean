import Substitution.CommandLine.Demo
import Substitution.CommandLine.Invocation
import Substitution.CommandLine.Log
import Substitution.Console.Markup
import Substitution.Console.Paragraph
import Substitution.Console.Table
import Substitution.Settings

/-!
# Runs of the program

What the program prints and how it ends, given its arguments, the files that it can see and its
standard input. The work is done first and printed last, so a run that fails prints no text.

The work records what it does in any case, and a run that is not verbose leaves out at the end what
is told of it (`Substitution.CommandLine.Outcome.quiet`). Warnings about patterns are given by every
run.
-/

namespace Substitution

namespace CommandLine

/-- Why a run fails. -/
inductive Failure where
  | settings (e : SettingsError)
  | input (e : FileError)
  | substitute (e : SubstituteError)

/-- The message of a run that fails. -/
def Failure.message : Failure → Text
  | settings e => e.message
  | input e => e.message
  | substitute e => e.message

/-- Is the fault of a pattern reported in the usual way? A repetition count that is too large is
not. -/
def reportsPattern : PatternError → Bool
  | .countTooLarge => false
  | _ => true

/-- Is the fault of a scalar reported in the usual way? -/
def reportsScalar : Yaml.ScalarFault → Bool
  | .integer .. | .decimal _ | .calendar _ | .codePoint => true
  | _ => false

/-- Is the failure reported in the usual way? Some are not foreseen and end the program abruptly. -/
def Failure.isReported : Failure → Bool
  | settings (.scalar fault) => reportsScalar fault
  | settings (.entry ⟨_, .pattern e⟩) => reportsPattern e
  | substitute (.pattern e) => reportsPattern e
  | substitute (.search _) => false
  | _ => true

/-- How a run ends. -/
inductive Ending where
  | done
  /-- Some cases of the demonstration have not given what they should. -/
  | unexpected
  | reported (e : Failure)
  | abrupt (e : Failure)
  | stopped (reason : Stop)

/-- The exit status of a run, unless it ends abruptly. -/
def Ending.status? : Ending → Option Nat
  | done => some 0
  | unexpected => some 1
  | reported _ => some 1
  | abrupt _ => none
  | stopped (.help _) => some 0
  | stopped (.misuse ..) => some 2

/-- What a run prints and how it ends. -/
structure Outcome where
  /-- What is printed. -/
  output : Text
  /-- What is logged, before anything is reported. -/
  log : List LogLine
  /-- The lines that are reported. -/
  report : List Text
  ending : Ending

/-- The outcome with nothing but warnings in its log. -/
def Outcome.quiet (o : Outcome) : Outcome :=
  { o with log := o.log.filter LogLine.isWarning }

/-- The lines of the log and of the report. -/
def Outcome.errorLines (o : Outcome) : List Text :=
  o.log.map LogLine.text ++ o.report

/-! ### Work -/

/-- Work that may fail and is recorded up to then. -/
abbrev Work := ExceptT Failure (StateM (List Event))

namespace Work

/-- Records an event. -/
def record (event : Event) : Work Unit :=
  modify (· ++ [event])

/-- Goes on with a result, or fails. -/
def lift (wrap : ε → Failure) (result : Except ε α) : Work α :=
  match result with
  | .ok a => pure a
  | .error e => throw (wrap e)

/-- What work gives, and what it records. -/
def run (w : Work α) : Except Failure α × List Event :=
  (ExceptT.run w).run []

/-- Tells that a template has been compiled. -/
def tellTemplate (text : Text) (t : Template) : Work Unit :=
  record (.told "safesub.template_engine" ("Compiled template ".toList ++ Text.quoted text ++
    " into ".toList ++ Text.decimal t.segments.length ++ " segment(s)".toList))

/-- Tells that matches have been replaced. -/
def tellReplaced (pattern : Text) (count : Nat) : Work Unit :=
  record (.told "safesub.substitution" ("Replaced ".toList ++ Text.decimal count ++
    " match(es) of ".toList ++ Text.quoted pattern))

/-- Tells that a rule has been applied. -/
def tellRule (pattern : Text) (count : Nat) : Work Unit :=
  record (.told "safesub.rules" ("Rule ".toList ++ Text.quoted pattern ++ " replaced ".toList ++
    Text.decimal count ++ " match(es)".toList))

/-- Compiles a template. -/
def compile (text : Text) : Work Template := do
  let t ← lift (fun e => .substitute (.template e)) (Template.compile text)
  tellTemplate text t
  return t

/-- Substitutes in a text by a template that is given as a text. -/
def substitute (options : Options) (source pattern replacement : Text) : Work Replaced := do
  let t ← compile replacement
  record (.compiled ⟨.search, pattern, options.flags⟩)
  let r ← lift .substitute (substituteText options.all options.flags source pattern (.inr t))
  tellReplaced pattern r.count
  return r

/-- The rule that an entry of a rules file gives. -/
def readRule (index : Nat) (v : Value) : Work Rule := do
  let wrap (fault : EntryFault) : Failure := .settings (.entry ⟨index, fault⟩)
  let draft ← lift wrap (Rule.Draft.ofValue (EntryError.place index) v)
  record (.compiled ⟨.entry, draft.pattern, draft.options.flags⟩)
  let rule ← lift wrap draft.finish
  tellTemplate rule.replacement rule.template
  return rule

/-- The rules that the entries of a rules file give, counted from `index`. -/
def readRules (index : Nat) : List Value → Work (List Rule)
  | [] => return []
  | v :: rest => do
    let rule ← readRule index v
    let rules ← readRules (index + 1) rest
    return rule :: rules

/-- The rules of a file. -/
def loadRules (files : Files) (path : Text) : Work (List Rule) := do
  let entries ← lift .settings (Rule.readEntries files path)
  readRules 0 entries

/-- Applies rules one after another and counts all replacements. -/
def applyRules (text : Text) : List Rule → Work Replaced
  | [] => return ⟨text, 0⟩
  | rule :: rest => do
    record (.compiled ⟨.search, rule.pattern, rule.options.flags⟩)
    let first ← lift .substitute (rule.apply text)
    tellReplaced rule.pattern first.count
    tellRule rule.pattern first.count
    let others ← applyRules first.text rest
    return ⟨others.text, first.count + others.count⟩

/-- The text to work on. -/
def readInput (files : Files) (standard : List UInt8) : Input → Work Text
  | .file path => lift .input (files.readWhole path)
  | .standard => lift .input (textOfBytes standard)

end Work

/-! ### Commands -/

/-- What a command prints, what it reports, and whether it has gone as it should. -/
structure Printed where
  output : Text
  report : List Text := []
  asExpected : Bool := true

/-- The table of the segments of a template. -/
def segmentTable (t : Template) : Console.Table where
  title := "Template segments".toList
  columns := [⟨['#'], true⟩, ⟨"Kind".toList, false⟩, ⟨"Value".toList, false⟩]
  rows := t.segments.zipIdx.map fun (s, i) =>
    Text.decimal (i + 1) :: match s with
      | .literal text =>
        ["literal".toList, Console.shown (Console.escape (Text.quoted text))]
      | .reference index => ["backref".toList, '$' :: Text.decimal (index + 1)]

/-- What is said about the references of a template. -/
def referenceSummary (t : Template) : Text :=
  if t.isLiteral then "No backreferences.".toList
  else "Needs at least ".toList ++ Text.decimal t.maxReference ++ " capture group(s).".toList

/-- The result of a case of the demonstration. A malformed template and a reference out of range
count as results. -/
def demoResult (c : DemoCase) : Work Text :=
  tryCatch ((Work.substitute {} c.source c.pattern c.replacement).map Replaced.text) fun e =>
    match e with
    | .substitute (.template (.malformed fault)) => return "error: ".toList ++ fault.message
    | .substitute (.reference fault) => return "error: ".toList ++ fault.message
    | e => throw e

/-- The table of the demonstration, with the result of each case. -/
def demoTable (cases : List (DemoCase × Text)) : Console.Table where
  title := "Demo cases".toList
  columns := ⟨"Case".toList, true⟩ ::
    ["String", "Pattern", "Replacement", "Expected", "Result", ""].map fun header =>
      ⟨header.toList, false⟩
  rows := cases.zipIdx.map fun ((c, result), i) =>
    Text.decimal (i + 1) ::
      ([c.source, c.pattern, c.replacement, c.expected, result].map fun t =>
        Console.shown (Console.escape (Text.quoted t))) ++
      [(if result = c.expected then "PASS" else "FAIL").toList]

namespace Command

/-- Does what a command asks for. -/
def work (cases : List DemoCase) (files : Files) (standard : List UInt8) : Command → Work Printed
  | .substitute pattern replacement path switches count input => do
    let options ← match path with
      | some path => Work.lift .settings (Options.load files path)
      | none => pure {}
    let text ← Work.readInput files standard input
    let r ← Work.substitute (options.override switches) text pattern replacement
    return { output := r.text, report := if count then
      ["Replaced ".toList ++ Text.decimal r.count ++ " match(es)".toList] else [] }
  | .apply path count input => do
    let rules ← Work.loadRules files path
    let text ← Work.readInput files standard input
    let r ← Work.applyRules text rules
    return { output := r.text, report := if count then
      ["Applied ".toList ++ Text.decimal rules.length ++ " rule(s), replaced ".toList ++
        Text.decimal r.count ++ " match(es)".toList] else [] }
  | .check replacement => do
    let t ← Work.compile replacement
    return { output := (segmentTable t).text ++ Console.paragraph (referenceSummary t) }
  | .demo => do
    let results ← cases.mapM fun c => do return (c, ← demoResult c)
    let failed := (results.filter fun (c, result) => result ≠ c.expected).length
    return {
      output := (demoTable results).text
      report := if failed = 0 then [] else
        [Text.decimal failed ++ " of ".toList ++ Text.decimal cases.length ++
          " case(s) failed.".toList]
      asExpected := failed = 0 }

end Command

/-- The outcome of a command, with the whole log. -/
def runCommand (cases : List DemoCase) (files : Files) (standard : List UInt8) (c : Command) :
    Outcome :=
  let (result, events) := (c.work cases files standard).run
  let log := linesFrom files.origin {} events
  match result with
  | .ok p => ⟨p.output, log, p.report, if p.asExpected then .done else .unexpected⟩
  | .error e =>
    if e.isReported then ⟨[], log, ["Error: ".toList ++ e.message], .reported e⟩
    else ⟨[], log, [], .abrupt e⟩

/-- The outcome of arguments that are not followed. -/
def stopped : Stop → Outcome
  | .help program => ⟨"usage: ".toList ++ program ++ ['\n'], [], [], .stopped (.help program)⟩
  | .misuse program fault =>
    ⟨[], [], [program ++ ": error: ".toList ++ fault.message], .stopped (.misuse program fault)⟩

/-- The outcome of a run with the given arguments. -/
def run (cases : List DemoCase) (files : Files) (standard : List UInt8) (args : List Text) :
    Outcome :=
  match Invocation.read args with
  | .error reason => stopped reason
  | .ok i =>
    let o := runCommand cases files standard i.command
    if i.verbose then o else o.quiet

end CommandLine

end Substitution
