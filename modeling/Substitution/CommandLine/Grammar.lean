import Substitution.Text.Digit
import Substitution.Text.Quoted

/-!
# Reading arguments

A **grammar** lists the flags that a program knows and says what it takes besides them: nothing, a
file that may be left out, or a command with arguments of its own.

Arguments are read in two passes. The first one finds what each of them is by itself: an argument
that begins with a dash is a flag, written in full or by any beginning of its long name that no
other flag has, with or without a value after an equal sign, or several short flags in one; a
negative number and an unknown word with a space in it are not. All after the first double dash are
no flags. The second pass gives flags their values and takes the rest in order.
-/

namespace Substitution

namespace CommandLine

/-- A flag of a program. -/
structure Flag where
  /-- The letter of its short name. -/
  short : Option Char := none
  /-- Its long name, without the dashes. -/
  long : String
  takesValue : Bool := false
  required : Bool := false
deriving Repr, DecidableEq

namespace Flag

/-- The long name with its dashes. -/
def longName (f : Flag) : Text :=
  "--".toList ++ f.long.toList

/-- The names of a flag. -/
def names (f : Flag) : List Text :=
  (f.short.map fun c => ['-', c]).toList ++ [f.longName]

/-- What a flag is called in messages. -/
def title (f : Flag) : Text :=
  Text.joinWith ['/'] f.names

/-- The flag that asks for help. -/
def help : Flag :=
  { short := some 'h', long := "help" }

end Flag

/-- What a program takes besides its flags. -/
inductive Operand where
  | nothing
  /-- The name of a file, which may be left out. -/
  | file
  /-- One of some commands, and all arguments after it. -/
  | command (choices : List Text)
deriving Repr, DecidableEq

/-- The arguments that a program understands. -/
structure Grammar where
  /-- What the program is called in messages. -/
  program : Text
  /-- The flags besides the one for help. -/
  ownFlags : List Flag
  operand : Operand

/-- What is wrong with arguments. -/
inductive Misuse where
  /-- Several flags begin as written. -/
  | ambiguous (written : Text) (names : List Text)
  | missingValue (flag : Text)
  /-- A flag that takes no value has one. -/
  | unwantedValue (flag value : Text)
  | missing (names : List Text)
  | unknownCommand (written : Text) (choices : List Text)
  | unrecognized (arguments : List Text)
deriving Repr, DecidableEq

/-- The message of wrong arguments. -/
def Misuse.message : Misuse → Text
  | ambiguous written names =>
    "ambiguous option: ".toList ++ written ++ " could match ".toList ++
      Text.joinWith ", ".toList names
  | missingValue flag => "argument ".toList ++ flag ++ ": expected one argument".toList
  | unwantedValue flag value =>
    "argument ".toList ++ flag ++ ": ignored explicit argument ".toList ++ Text.quoted value
  | missing names =>
    "the following arguments are required: ".toList ++ Text.joinWith ", ".toList names
  | unknownCommand written choices =>
    "argument command: invalid choice: ".toList ++ Text.quoted written ++ " (choose from ".toList ++
      Text.joinWith ", ".toList (choices.map Text.quoted) ++ [')']
  | unrecognized arguments =>
    "unrecognized arguments: ".toList ++ Text.joinWith [' '] arguments

/-- Why a program is not run. -/
inductive Stop where
  /-- Help is asked for. -/
  | help (program : Text)
  | misuse (program : Text) (fault : Misuse)
deriving Repr, DecidableEq

/-- A value that is written in the same argument as its flag. -/
structure Attached where
  /-- Does it follow an equal sign? -/
  byEquals : Bool
  text : Text
deriving Repr, DecidableEq

/-- What an argument is, taken by itself. -/
inductive Role where
  /-- The first double dash. -/
  | divider
  | operand
  /-- A flag, the name by which it is written, and a value in the same argument. -/
  | flag (f : Flag) (name : Text) (attached : Option Attached)
  | unknownFlag
deriving Repr, DecidableEq

/-- Arguments that have been read. -/
structure Arguments where
  /-- The flags in order, each with its value. -/
  flags : List (Flag × Option Text) := []
  operands : List Text := []
  /-- What is not understood. -/
  extras : List Text := []

namespace Arguments

/-- Is a flag given? -/
def has (a : Arguments) (f : Flag) : Bool :=
  a.flags.any fun given => given.1 = f

/-- The last value given to a flag. -/
def value? (a : Arguments) (f : Flag) : Option Text :=
  (a.flags.reverse.find? fun given => given.1 = f).bind Prod.snd

end Arguments

/-- Is the text a negative number? A line feed at its end does not count. -/
def isNegativeNumber (t : Text) : Bool :=
  match t with
  | '-' :: rest =>
    let body := if rest.getLast? = some '\n' then rest.dropLast else rest
    let whole := body.takeWhile Text.isDigit
    match body.drop whole.length with
    | [] => !whole.isEmpty
    | '.' :: part => !part.isEmpty && part.all Text.isDigit
    | _ => false
  | _ => false

namespace Grammar

/-- The flags of a program. -/
def flags (g : Grammar) : List Flag :=
  Flag.help :: g.ownFlags

/-- The names of all flags, each with its flag. -/
def named (g : Grammar) : List (Text × Flag) :=
  g.flags.flatMap fun f => f.names.map fun name => (name, f)

/-- The flag with a name. -/
def find? (g : Grammar) (name : Text) : Option Flag :=
  g.named.lookup name

/-- The flags that an argument can mean which is none of their names: those whose long name begins
as written, or the one whose short name comes first in it. -/
def candidates (g : Grammar) (arg before : Text) (value : Option Text) :
    List (Flag × Text × Option Attached) :=
  if "--".toList.isPrefixOf arg then
    (g.named.filter fun (name, _) => before.isPrefixOf name).map fun (name, f) =>
      (f, name, value.map (⟨true, ·⟩))
  else
    (g.named.filter fun (name, _) => name = arg.take 2).map fun (name, f) =>
      (f, name, some ⟨false, arg.drop 2⟩)

/-- What an argument before the first double dash is. -/
def role (g : Grammar) (arg : Text) : Except Misuse Role :=
  if arg.head? ≠ some '-' then .ok .operand
  else match g.find? arg with
  | some f => .ok (.flag f arg none)
  | none =>
    let before := arg.takeWhile (· != '=')
    let value := (arg.drop before.length).tail?
    match g.find? before, value with
    | some f, some v => .ok (.flag f before (some ⟨true, v⟩))
    | _, _ =>
      if arg.length = 1 then .ok .operand
      else match g.candidates arg before value with
      | [(f, name, attached)] => .ok (.flag f name attached)
      | [] =>
        .ok (if isNegativeNumber arg ∨ arg.contains ' ' then .operand else .unknownFlag)
      | several => .error (.ambiguous arg (several.map fun c => c.2.1))

/-- The arguments, each with what it is. -/
def roles (g : Grammar) : List Text → Except Misuse (List (Text × Role))
  | [] => .ok []
  | arg :: rest =>
    if arg = "--".toList then .ok ((arg, .divider) :: rest.map fun a => (a, .operand))
    else do
      let first ← g.role arg
      let others ← g.roles rest
      .ok ((arg, first) :: others)

/-- The flags in an argument that begins with a flag written by `name`, the rest of the argument
being `text`. If all of it is used up without a value, the last flag may take one from the next
argument. -/
structure Cluster where
  /-- The flags that are complete. -/
  complete : List (Flag × Option Text)
  /-- The last flag, if it has no value in the argument. -/
  last : Option Flag
  /-- What is not understood. -/
  extra : Option Text

/-- Reads on in an argument after a flag: what follows is its value, or further short flags. -/
def cluster (g : Grammar) (f : Flag) (name : Text) (byEquals : Bool) (text : Text) :
    Except Misuse Cluster :=
  if f.takesValue then .ok ⟨[(f, some text)], none, none⟩
  else if "--".toList.isPrefixOf name then .error (.unwantedValue f.title text)
  else match text with
  | [] => .error (.unwantedValue f.title text)
  | c :: rest =>
    if byEquals ∨ c = '-' then .error (.unwantedValue f.title text)
    else match g.find? ['-', c], rest with
    | none, _ => .ok ⟨[(f, none)], none, some ('-' :: text)⟩
    | some f', [] => .ok ⟨[(f, none)], some f', none⟩
    | some f', '=' :: value => (g.cluster f' ['-', c] true value).map fun cl =>
      { cl with complete := (f, none) :: cl.complete }
    | some f', d :: more => (g.cluster f' ['-', c] false (d :: more)).map fun cl =>
      { cl with complete := (f, none) :: cl.complete }
termination_by text.length

/-- Adds flags in front of arguments; a flag that asks for help stops the reading. -/
def withFlags (g : Grammar) (flags : List (Flag × Option Text)) (rest : Except Stop Arguments) :
    Except Stop Arguments :=
  if flags.any fun f => f.1 = Flag.help then .error (.help g.program)
  else rest.map fun a => { a with flags := flags ++ a.flags }

/-- Adds an argument that is not understood in front of arguments. -/
def withExtra (extra : Text) (rest : Except Stop Arguments) : Except Stop Arguments :=
  rest.map fun a => { a with extras := extra :: a.extras }

/-- Whether the operand of a program may still come. -/
inductive Slot where
  | vacant
  /-- It is the argument just before; a double dash after it belongs to it. -/
  | filled
  | closed
deriving Repr, DecidableEq

/-- Reads arguments of known roles; `pending` is a flag that waits for its value. -/
def readRoles (g : Grammar) (slot : Slot) (pending : Option Flag) :
    List (Text × Role) → Except Stop Arguments
  | [] => match pending with
    | some f => .error (.misuse g.program (.missingValue f.title))
    | none => .ok {}
  | (arg, role) :: rest =>
    let past := if slot = .filled then .closed else slot
    let after (f : Flag) : Except Stop Arguments :=
      if f.takesValue then g.readRoles past (some f) rest
      else g.withFlags [(f, none)] (g.readRoles past none rest)
    match pending, role with
    | some f, .operand => g.withFlags [(f, some arg)] (g.readRoles slot none rest)
    | some f, _ => .error (.misuse g.program (.missingValue f.title))
    | none, .unknownFlag => withExtra arg (g.readRoles past none rest)
    | none, .flag f _ none => after f
    | none, .flag f name (some attached) =>
      match g.cluster f name attached.byEquals attached.text with
      | .error m => .error (.misuse g.program m)
      | .ok cl => g.withFlags cl.complete (match cl.last, cl.extra with
        | some f', _ => after f'
        | none, some extra => withExtra extra (g.readRoles past none rest)
        | none, none => g.readRoles past none rest)
    | none, .operand =>
      match slot, g.operand with
      | .vacant, .command _ => .ok { operands := arg :: rest.map Prod.fst }
      | .vacant, .file => (g.readRoles .filled none rest).map fun a => { a with operands := [arg] }
      | _, _ => withExtra arg (g.readRoles past none rest)
    | none, .divider =>
      match slot, g.operand with
      | .vacant, .command _ =>
        if rest.isEmpty then .ok { extras := [arg] }
        else .ok { operands := arg :: rest.map Prod.fst }
      | .vacant, .file => g.readRoles .vacant none rest
      | .filled, _ => g.readRoles .closed none rest
      | _, _ => withExtra arg (g.readRoles past none rest)

/-- The names of what must be given and is not. -/
def missing (g : Grammar) (a : Arguments) : List Text :=
  (g.flags.filter fun f => f.required && !a.has f).map Flag.title ++
    match g.operand with
    | .command _ => if a.operands.isEmpty then ["command".toList] else []
    | _ => []

/-- Reads arguments. What is not understood is left to the caller. -/
def read (g : Grammar) (args : List Text) : Except Stop Arguments := do
  let roles ← (g.roles args).mapError (.misuse g.program)
  let slot := if g.operand = .nothing then .closed else .vacant
  let a ← g.readRoles slot none roles
  let missing := g.missing a
  if missing.isEmpty then .ok a else .error (.misuse g.program (.missing missing))

end Grammar

end CommandLine

end Substitution
