import Substitution.Console.Emoji

/-!
# Console markup

A console reads tags in brackets as marks of style, and names between colons as pictographs. A tag
begins with a small letter or one of `#`, `/`, `@`, and holds no other opening bracket. Backslashes
before a tag halve, and if their number is odd, the tag is text.

`Substitution.Console.escape` writes a text so that no tag in it is a mark of style;
`Substitution.Console.shown` is what a console shows for a text with marks. Escaping keeps tags
only: a pictograph's name is still replaced, and a backslash before a bracket that opens no tag
goes.
-/

namespace Substitution

namespace Console

/-- The tag that stands here, from its opening to its closing bracket, and the text after it. -/
def tag? (t : Text) : Option (Text × Text) :=
  match t with
  | '[' :: c :: rest =>
    if ('a' ≤ c && c ≤ 'z') || c == '#' || c == '/' || c == '@' then
      let inner := rest.takeWhile fun d => d != '[' && d != ']'
      match rest.drop inner.length with
      | ']' :: rest => some ('[' :: c :: inner ++ [']'], rest)
      | _ => none
    else none
  | _ => none

/-- A piece of a text with marks. -/
inductive Piece where
  /-- Text between the tags. -/
  | plain (text : Text)
  /-- A tag, with the number of backslashes before it. -/
  | tag (backslashes : Nat) (text : Text)
deriving Repr, DecidableEq

/-- The pieces of a text from here on; `plain` is the text since the last tag, and `backslashes` is
the number of backslashes after it. -/
def piecesFrom (plain : Text) (backslashes : Nat) : (limit : Nat) → Text → List Piece
  | 0, t => [.plain (plain ++ List.replicate backslashes '\\' ++ t)]
  | limit + 1, t =>
    match tag? t with
    | some (tag, rest) => .plain plain :: .tag backslashes tag :: piecesFrom [] 0 limit rest
    | none =>
      match t with
      | [] => [.plain (plain ++ List.replicate backslashes '\\')]
      | c :: rest =>
        if c = '\\' then piecesFrom plain (backslashes + 1) limit rest
        else piecesFrom (plain ++ List.replicate backslashes '\\' ++ [c]) 0 limit rest

/-- The pieces of a text. -/
def pieces (t : Text) : List Piece :=
  piecesFrom [] 0 (t.length + 1) t

/-- A piece in which a tag is text. -/
def Piece.escaped : Piece → Text
  | plain text => text
  | tag backslashes text => List.replicate (2 * backslashes + 1) '\\' ++ text

/-- A text in which no tag is a mark of style. A backslash alone at its end is doubled, so that it
does not escape what follows. -/
def escape (t : Text) : Text :=
  let marked := (pieces t).flatMap Piece.escaped
  if marked.getLast? = some '\\' ∧ marked.dropLast.getLast? ≠ some '\\' then marked ++ ['\\']
  else marked

/-- A text without the backslashes that stand just before an opening bracket. -/
def unescapeBrackets : Text → Text
  | '\\' :: '[' :: rest => '[' :: unescapeBrackets rest
  | c :: rest => c :: unescapeBrackets rest
  | [] => []

/-- Text as a console shows it. -/
def shownText (t : Text) : Text :=
  replaceEmoji (unescapeBrackets t)

/-- What a console shows of a piece: a mark of style is not shown. -/
def Piece.shown : Piece → Text
  | plain text => shownText text
  | tag backslashes text =>
    List.replicate (backslashes / 2) '\\' ++ if backslashes % 2 = 1 then shownText text else []

/-- What a console shows for a text with marks. -/
def shown (t : Text) : Text :=
  (pieces t).flatMap Piece.shown

end Console

end Substitution
