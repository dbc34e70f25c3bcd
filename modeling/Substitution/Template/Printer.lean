import Substitution.Template.Token

/-!
# Writing templates

`Substitution.Template.print` writes a template as text: backslashes and dollar signs of literal
segments after a backslash, references in braces. Reading the text back gives the template in its
normal form, `Substitution.Template.normal`, where empty literal segments are dropped and
neighbouring ones are joined.
-/

namespace Substitution

/-- The tokens that write a segment. -/
def Segment.tokens : Segment → List Template.Token
  | literal text =>
    text.map fun c => if c = '\\' ∨ c = '$' then .escaped c else .plain c
  | reference index => [.reference (index + 1) true]

namespace Template

/-- The text of a template. -/
def print (t : Template) : Text :=
  (t.segments.flatMap Segment.tokens).flatMap Token.spell

/-- Puts a segment in front of a list in normal form. -/
def pushSegment : Segment → List Segment → List Segment
  | .literal [], segments => segments
  | .literal text, .literal next :: rest => .literal (text ++ next) :: rest
  | segment, segments => segment :: segments

/-- The template with empty literal segments dropped and neighbouring ones joined. -/
def normal (t : Template) : Template :=
  ⟨t.segments.foldr pushSegment []⟩

end Template

end Substitution
