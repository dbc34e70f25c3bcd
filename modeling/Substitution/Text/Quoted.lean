import Substitution.Text.Printable

/-!
# Quoted texts

Messages show a text **between quotes**, so that blanks, quotes and unprintable characters in it can
be told apart. The quotes are single ones, unless the text has a single quote and no double one.
Inside, the backslash and the quote in use follow a backslash; tab, line feed and carriage return
are written as `\t`, `\n`, `\r`; printable characters stand for themselves; any other code point is
written in hexadecimal, as `\x`, `\u` or `\U` with two, four or eight digits, whichever is the
shortest that holds it.
-/

namespace Substitution

namespace Text

/-- The quote that encloses a text: the single one, unless the text has single quotes and no double
ones. -/
def quoteFor (t : Text) : Char :=
  if t.contains '\'' && !t.contains '"' then '"' else '\''

/-- The spelling of one character between two `quote`s. -/
def escape (quote c : Char) : Text :=
  if c = quote ∨ c = '\\' then ['\\', c]
  else if c = '\t' then ['\\', 't']
  else if c = '\n' then ['\\', 'n']
  else if c = '\r' then ['\\', 'r']
  else if isPrintable c then [c]
  else if c.toNat < 0x100 then '\\' :: 'x' :: hex 2 c.toNat
  else if c.toNat < 0x10000 then '\\' :: 'u' :: hex 4 c.toNat
  else '\\' :: 'U' :: hex 8 c.toNat

/-- The text between quotes. -/
def quoted (t : Text) : Text :=
  let quote := quoteFor t
  quote :: t.flatMap (escape quote) ++ [quote]

/-- The texts in quotes, as a list between brackets. -/
def quotedList (ts : List Text) : Text :=
  '[' :: joinWith [',', ' '] (ts.map quoted) ++ [']']

end Text

end Substitution
