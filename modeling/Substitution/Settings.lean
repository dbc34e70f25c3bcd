import Substitution.Files
import Substitution.Rule.Entry
import Substitution.Yaml.Meaning

/-!
# Settings files

Options and rules are kept in files. An options file holds a mapping, a rules file a list of
entries; an empty file of either kind holds no settings.
-/

namespace Substitution

/-- Why a settings file gives no settings. -/
inductive SettingsError where
  | file (e : FileError)
  /-- The file breaks the rules of its format; what is wrong with it is explained. -/
  | malformed (path explanation : Text)
  /-- A scalar in the file does not fit its type. -/
  | scalar (fault : Yaml.ScalarFault)
  /-- An options file holds no mapping; the kind of its value is given. -/
  | notMapping (kind : Text)
  | options (e : OptionsError)
  /-- A rules file holds no list; the kind of its value is given. -/
  | notList (kind : Text)
  | entry (e : EntryError)

/-- The message of a settings file that gives no settings. -/
def SettingsError.message : SettingsError → Text
  | file e => e.message
  | malformed path explanation =>
    "Invalid YAML in ".toList ++ path ++ ": ".toList ++ explanation
  | scalar fault => fault.message
  | notMapping kind => "Options YAML must be a mapping, got ".toList ++ kind
  | options e => e.message
  | notList kind => "Rules YAML must be a list, got ".toList ++ kind
  | entry e => e.message

/-- The value that a settings file holds. A part of it is cut where it contains itself, not counting
the outermost `free` levels. -/
def readSettings (free : Nat) (files : Files) (path : Text) : Except SettingsError Value := do
  let text ← (files.readPiecewise path).mapError .file
  match Yaml.read free text with
  | .ok v => .ok v
  | .error .malformed => .error (.malformed path (files.explanation path))
  | .error (.scalar fault) => .error (.scalar fault)

namespace Options

/-- The options that the value of an options file gives. -/
def ofValue : Value → Except SettingsError Options
  | .null => .ok {}
  | .map entries => (ofMapping "options".toList entries).mapError .options
  | v => .error (.notMapping v.kindName)

/-- The options that an options file gives. -/
def load (files : Files) (path : Text) : Except SettingsError Options :=
  (readSettings 1 files path).bind ofValue

end Options

namespace Rule

/-- The entries that the value of a rules file has. -/
def entriesOf : Value → Except SettingsError (List Value)
  | .null => .ok []
  | .list items => .ok items
  | v => .error (.notList v.kindName)

/-- The entries of a rules file. -/
def readEntries (files : Files) (path : Text) : Except SettingsError (List Value) :=
  (readSettings 2 files path).bind entriesOf

/-- The rules that a rules file gives. -/
def load (files : Files) (path : Text) : Except SettingsError (List Rule) := do
  let entries ← readEntries files path
  (ofValues 0 entries).mapError .entry

end Rule

end Substitution
