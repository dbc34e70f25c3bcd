import Substitution.Template.Basic

/-!
# Tokens of a template

The text of a template is a concatenation of tokens: plain characters, the two escapes `\$` and
`\\`, and references, which are written bare (`$12`) or in braces (`${12}`).
`Substitution.Template.Token.spell` writes a token and `Substitution.Template.ofTokens` gives the
template that a list of tokens stands for: consecutive plain and escaped characters form one literal
segment, so no literal segment is empty and no two of them are neighbours.
-/

namespace Substitution

namespace Template

/-- A token of the text of a template. -/
inductive Token where
  /-- A character that stands for itself. -/
  | plain (c : Char)
  /-- A dollar sign or a backslash, written after a backslash. -/
  | escaped (c : Char)
  /-- A reference to a group, counted from one. -/
  | reference (number : Nat) (braced : Bool)
deriving Repr, DecidableEq

/-- The text of a token. -/
def Token.spell : Token → Text
  | plain c => [c]
  | escaped c => ['\\', c]
  | reference n false => '$' :: Text.decimal n
  | reference n true => '$' :: '{' :: Text.decimal n ++ ['}']

/-- Puts a character in front of a list of segments, into its first segment if that is literal. -/
def pushChar (c : Char) : List Segment → List Segment
  | .literal text :: rest => .literal (c :: text) :: rest
  | segments => .literal [c] :: segments

/-- The segments that a list of tokens stands for. -/
def segmentsOf : List Token → List Segment
  | [] => []
  | .plain c :: rest => pushChar c (segmentsOf rest)
  | .escaped c :: rest => pushChar c (segmentsOf rest)
  | .reference n _ :: rest => .reference (n - 1) :: segmentsOf rest

/-- The template that a list of tokens stands for. -/
def ofTokens (tokens : List Token) : Template :=
  ⟨segmentsOf tokens⟩

end Template

end Substitution
