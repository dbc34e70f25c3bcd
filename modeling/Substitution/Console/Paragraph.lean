import Substitution.Text.Blank
import Substitution.Text.CellWidth
import Substitution.Text.Basic

/-!
# Paragraphs

A text that is wider than the console is broken before words, and inside a word that is wider than
the console itself. The blanks after a word stay with it, and those that would stand beyond the
width are dropped.
-/

namespace Substitution

namespace Console

/-- The number of columns of the console. The output is no terminal, so the number is what `COLUMNS`
in the environment of a run says; the runs that are modelled here have it set to this. -/
def columns : Nat := 300

/-- The words of a text from here on, each with the blanks after it; blanks at the start stay with
the first word. `word` has been read already, and has `ended` if a blank stood after it. -/
def wordsFrom (word : Text) (ended : Bool) : Text → List Text
  | [] => if word.isEmpty then [] else [word]
  | c :: rest =>
    if Text.isBlank c then
      wordsFrom (word ++ [c]) (ended || word.any fun d => !Text.isBlank d) rest
    else if ended then word :: wordsFrom [c] false rest
    else wordsFrom (word ++ [c]) false rest

/-- A text without the blanks at its end. -/
def trimEnd (t : Text) : Text :=
  (t.reverse.dropWhile Text.isBlank).reverse

/-- The chunks of a text, each as long as the width allows, after the one that has been begun. -/
def chunksFrom (width : Nat) (chunk : Text) : Text → List Text
  | [] => [chunk]
  | c :: rest =>
    if Text.width (chunk ++ [c]) ≤ width then chunksFrom width (chunk ++ [c]) rest
    else chunk :: chunksFrom width [c] rest

/-- The lines of words, after those on the line that has been begun. A word that is too wide for any
line begins one of its own and is continued on the next ones. -/
def linesFrom (width : Nat) (line : Text) : List Text → List Text
  | [] => [line]
  | word :: rest =>
    let wordWidth := Text.width (trimEnd word)
    if Text.width line + wordWidth ≤ width then linesFrom width (line ++ word) rest
    else if wordWidth ≤ width then line :: linesFrom width word rest
    else
      let chunks := chunksFrom width [] word
      (if line.isEmpty then [] else [line]) ++ chunks.dropLast ++
        linesFrom width (chunks.getLastD []) rest

/-- A line without the blanks at its end that stand beyond the width. -/
def cutBlanks (width : Nat) (line : Text) : Text :=
  line.take (max width (trimEnd line).length)

/-- A text broken into lines of the width of the console, with a line feed after each. -/
def paragraph (t : Text) : Text :=
  (linesFrom columns [] (wordsFrom [] false t)).flatMap fun line => cutBlanks columns line ++ ['\n']

end Console

end Substitution
