import Substitution.Yaml.Error

/-!
# Tokens of a document

The marks and scalars of which a document consists, with its layout made explicit: where indentation
opens or closes a collection there is a token for it, and every key of a mapping is announced. If
the text cannot be read to its end, the tokens before the fault are followed by the fault itself, so
that what is wrong with them is reported first.
-/

namespace Substitution

namespace Yaml

/-- What a line at the start of a document that begins with a percent sign directs. -/
inductive Directive where
  /-- The version of the format. -/
  | version (major : Int)
  /-- What a tag handle stands for. -/
  | handle (handle uri : Text)
  /-- Anything else, which is ignored. -/
  | other
deriving Repr, DecidableEq

/-- A token of a document. -/
inductive Token where
  | directive (d : Directive)
  | documentStart
  | documentEnd
  | endOfText
  /-- Indentation opens a sequence. -/
  | blockSequence
  /-- Indentation opens a mapping. -/
  | blockMapping
  /-- The innermost collection opened by indentation ends. -/
  | blockEnd
  /-- An opening bracket. -/
  | flowSequence
  /-- A closing bracket. -/
  | flowSequenceEnd
  /-- An opening brace. -/
  | flowMapping
  /-- A closing brace. -/
  | flowMappingEnd
  /-- The dash before an item. -/
  | item
  | comma
  /-- A key follows. -/
  | key
  /-- The colon before the value of a key. -/
  | value
  | aliasOf (name : Text)
  | anchor (name : Text)
  /-- A tag, with its handle unless it is written in full. -/
  | tag (handle : Option Text) (suffix : Text)
  | scalar (plain : Bool) (text : Text)
  /-- The text cannot be read any further. -/
  | fault (e : Error)
deriving Repr, DecidableEq

end Yaml

end Substitution
