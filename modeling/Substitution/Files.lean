import Substitution.Text.Quoted
import Substitution.Text.Utf8

/-!
# Files

The files that a run can see are given by what opening each path yields: bytes, or the reason why
there are none. `Substitution.Files.ofEntries` is a directory with named entries, each a file of
bytes or a directory; a path in it names an entry, and dots and empty parts of the path are skipped.

Two things are shown to the user as they are found and decide nothing: how the format of a file that
breaks its rules is explained, and the lines of the program's own files that a warning points to.

A file is read as UTF-8 text with unified line ends, either whole or piece by piece. In a piecewise
reading the bytes that are left over when the file ends in the middle of a character are judged by
themselves, so that their positions count from the first of them.
-/

namespace Substitution

/-- Why a file cannot be read. -/
inductive FileError where
  | notFound (path : Text)
  | isDirectory (path : Text)
  | notDirectory (path : Text)
  /-- The path holds a character that no path can hold. -/
  | badPath
  | notText (e : Text.Utf8Error)
deriving Repr, DecidableEq

/-- The message of a file that cannot be read. -/
def FileError.message : FileError → Text
  | notFound path => "[Errno 2] No such file or directory: ".toList ++ Text.quoted path
  | isDirectory path => "[Errno 21] Is a directory: ".toList ++ Text.quoted path
  | notDirectory path => "[Errno 20] Not a directory: ".toList ++ Text.quoted path
  | badPath => "embedded null byte".toList
  | notText e => e.message

/-- A place in the program at which patterns are compiled. -/
inductive CompileSite where
  /-- A text is about to be searched. -/
  | search
  /-- An entry of a rules file is checked. -/
  | entry
deriving Repr, DecidableEq

/-- A line of one of the program's own files. -/
structure SourceLine where
  /-- The path of the file and the number of the line. -/
  place : Text := []
  /-- The line, or nothing if the file cannot be read. -/
  text : Text := []
deriving Repr, DecidableEq

/-- The files that a run can see. -/
structure Files where
  /-- The bytes of the file that a path names. -/
  content : Text → Except FileError (List UInt8)
  /-- What breaks the rules of the format in the file that a path names, in the words of whoever
  reads the format. -/
  explanation : Text → Text := fun _ => []
  /-- The line of the program at which patterns are compiled. -/
  origin : CompileSite → SourceLine := fun _ => {}

/-- What stands under a name in a directory. -/
inductive FileContent where
  | bytes (content : List UInt8)
  | directory
deriving Repr

/-- The text that bytes hold. -/
def textOfBytes (content : List UInt8) : Except FileError Text :=
  match Text.decodeUtf8 content with
  | .ok t => .ok (Text.unifyLines t)
  | .error e => .error (.notText e)

namespace Files

/-- The parts of a path. -/
def parts (path : Text) : List Text :=
  (Text.splitAtEach '/' path).filter fun p => p ≠ [] ∧ p ≠ ['.']

/-- The files of a directory with the given entries. -/
def ofEntries (entries : List (Text × FileContent)) : Files where
  content path :=
    if path.contains (Char.ofNat 0) then .error .badPath
    else if path.isEmpty then .error (.notFound path)
    else match parts path with
      | [] => .error (.isDirectory path)
      | name :: inner =>
        match entries.lookup name with
        | none => .error (.notFound path)
        | some .directory => .error (if inner.isEmpty then .isDirectory path else .notFound path)
        | some (.bytes content) =>
          if inner.isEmpty ∧ path.getLast? ≠ some '/' then .ok content
          else .error (.notDirectory path)

/-- The text of the file that a path names, read whole. -/
def readWhole (files : Files) (path : Text) : Except FileError Text := do
  textOfBytes (← files.content path)

/-- The text of the file that a path names, read piece by piece. -/
def readPiecewise (files : Files) (path : Text) : Except FileError Text :=
  (files.readWhole path).mapError fun e =>
    match e with
    | .notText ⟨_, byte, length, .truncated⟩ => .notText ⟨0, byte, length, .truncated⟩
    | e => e

end Files

end Substitution
