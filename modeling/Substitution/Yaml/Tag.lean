import Substitution.Yaml.Timestamp

/-!
# Tags

The type of a node. Tags are written in the document or found from the text of an untagged plain
scalar: `Tag.ofPlain` recognizes truth values, numbers, dates, the merge key, the value key and
nothing by their spelling, and takes everything else as a text.
-/

namespace Substitution

namespace Yaml

/-- The type of a node. -/
inductive Tag where
  | null
  | bool
  | int
  | float
  | binary
  | timestamp
  | str
  | seq
  /-- A sequence of mappings with one entry each, read as a list of pairs, in one of two names. -/
  | pairs
  | set
  | map
  /-- The key under which a mapping takes over the entries of others. -/
  | merge
  /-- The key under which a mapping gives the scalar that it stands for. -/
  | value
  /-- A type that no value has. -/
  | unknown
deriving Repr, DecidableEq

namespace Tag

/-- What the tags of the format begin with. -/
def home : Text :=
  "tag:yaml.org,2002:".toList

/-- The names of the tags of the format. -/
def names : List (String × Tag) :=
  [("null", null), ("bool", bool), ("int", int), ("float", float), ("binary", binary),
    ("timestamp", timestamp), ("str", str), ("seq", seq), ("omap", pairs), ("pairs", pairs),
    ("set", set), ("map", map), ("merge", merge), ("value", value)]

/-- The type that a full tag names. -/
def ofText (t : Text) : Tag :=
  match names.find? fun entry => home ++ entry.1.toList == t with
  | some (_, tag) => tag
  | none => unknown

/-- The words for nothing. -/
def nullWords : List String :=
  ["~", "null", "Null", "NULL", ""]

/-- The words for truth values. -/
def truthWords : List String :=
  ["yes", "Yes", "YES", "no", "No", "NO", "true", "True", "TRUE", "false", "False", "FALSE",
    "on", "On", "ON", "off", "Off", "OFF"]

/-- The type of a scalar by its spelling. -/
def ofSpelling (t : Text) : Tag :=
  if truthWords.any (·.toList == t) then bool
  else if isDecimal t then float
  else if isInteger t then int
  else if t = "<<".toList then merge
  else if nullWords.any (·.toList == t) then null
  else if Timestamp.isForm t then timestamp
  else if t = ['='] then value
  else str

/-- A text without a line feed at its end. -/
def dropLastBreak (t : Text) : Text :=
  if t.getLast? = some '\n' then t.dropLast else t

/-- The type of an untagged scalar. A line feed at its end does not count, unless nothing stands
before it. -/
def ofPlain (t : Text) : Tag :=
  if t = ['\n'] then str else ofSpelling (dropLastBreak t)

end Tag

end Yaml

end Substitution
