import Substitution.Pattern.Node

/-!
# Matching a tree

`Substitution.Node.run` tries the ways in which a tree matches at some place of a text, in the order
that the pattern prescribes, and hands each way's outcome to what comes after it, the
*continuation*. The first way that the continuation accepts is the answer. So each construct is
defined by the order in which it tries its ways.

## Marks

The state of a match is a position and the **marks** made so far, two for each group: where it last
began and where it last ended. Marks are kept in one place for the whole search, so a way that is
given up leaves the marks behind that it has made, and it is the constructs that have a choice which
take them back. They do so in one of two manners (`Substitution.Marks.takeBack`). In the body of a
greedy or lazy repetition the marks become what they were. Elsewhere only those go that are new: a
mark that had been made before and was made again keeps its new place.

So a group can come to end before it begins. In `(?:(a)|b)*+` on `abb` the group is entered at each
round; in the second and the third one it is entered in vain, which moves its beginning and not its
end. Such a group counts as one that has captured nothing, and a match that has one when it is
complete cannot be told of at all.

## Repetition

Repetitions up to the least count are all made, even of a body that matches the empty text. Of the
others, one that begins where the one before it began is not made: a body that has matched the empty
text is not tried again at the same place. Hence every further repetition but the last one moves on,
and `n + 1` of them are as good as any number when `n` characters are left.

A body that tests a single character is repeated without a trace: the ways of the repetition are the
places where it can end.
-/

namespace Substitution

/-! ### Marks -/

/-- The marks made so far. For each group in turn they tell where it last began and where it last
ended; there is nothing where a mark has been passed over, and they end with the last mark made. -/
abbrev Marks := List (Option Nat)

namespace Marks

/-- Makes the mark with an index, counted from zero. -/
def put (marks : Marks) (index position : Nat) : Marks :=
  if index < marks.length then marks.set index (some position)
  else marks ++ List.replicate (index - marks.length) none ++ [some position]

/-- What is gone on with after a way has been given up that found the marks `saved` and left the
marks `left` behind: the former, or what is left of them. -/
def takeBack (whole : Bool) (saved left : Marks) : Marks :=
  if whole then saved else left.take saved.length

/-- Where a group, counted from one, last began and last ended. -/
def ends? (marks : Marks) (group : Nat) : Option (Nat × Nat) :=
  match marks[2 * (group - 1)]?, marks[2 * (group - 1) + 1]? with
  | some (some a), some (some b) => some (a, b)
  | _, _ => none

/-- What a group has captured. -/
def span? (marks : Marks) (group : Nat) : Option (Nat × Nat) :=
  (marks.ends? group).filter fun (a, b) => a ≤ b

end Marks

/-- How far a match has come. -/
structure MatchState where
  position : Nat
  marks : Marks
deriving Repr, DecidableEq

namespace MatchState

/-- Marks the beginning of a group. -/
def enter (st : MatchState) (group : Nat) : MatchState :=
  { st with marks := st.marks.put (2 * (group - 1)) st.position }

/-- Marks the end of a group. -/
def leave (st : MatchState) (group : Nat) : MatchState :=
  { st with marks := st.marks.put (2 * (group - 1) + 1) st.position }

end MatchState

/-! ### Ways to match -/

/-- What comes of trying ways to match. -/
inductive Trial where
  | matched (st : MatchState)
  /-- No way has been accepted; the marks are those that are left behind. -/
  | failed (left : Marks)
deriving Repr, DecidableEq

namespace Trial

/-- Goes on from where ways have matched. -/
def andThen (t : Trial) (k : MatchState → Trial) : Trial :=
  match t with
  | matched st => k st
  | failed left => failed left

/-- Tries something else if no way has been accepted. -/
def orElse (t : Trial) (other : Marks → Trial) : Trial :=
  match t with
  | matched st => matched st
  | failed left => other left

end Trial

/-- A way to go on, and what comes of it. -/
abbrev Continuation := MatchState → Trial

/-- Tries ways to match, and goes on with each. -/
abbrev Matcher := MatchState → Continuation → Trial

namespace Matcher

/-- The first way to match. -/
def first (m : Matcher) (st : MatchState) : Trial :=
  m st .matched

/-- The ways of one matcher, then those of another. -/
def either (whole : Bool) (m n : Matcher) : Matcher := fun st k =>
  (m st k).orElse fun left =>
    (n ⟨st.position, Marks.takeBack whole st.marks left⟩ k).orElse fun left =>
      .failed (Marks.takeBack whole st.marks left)

/-- Goes on at each of some places in turn, given the marks at hand and those to go back to. -/
def atEach (whole : Bool) (saved : Marks) (k : Continuation) : List Nat → Marks → Trial
  | [], marks => .failed marks
  | place :: places, marks =>
    (k ⟨place, marks⟩).orElse fun left =>
      atEach whole saved k places (Marks.takeBack whole saved left)

/-- Up to `limit` further places in a row that can be passed one by one from a position on, that
position included. -/
def reach (passes : Nat → Bool) : (limit : Nat) → (position : Nat) → List Nat
  | 0, position => [position]
  | limit + 1, position =>
    position :: if passes position then reach passes limit (position + 1) else []

/-- Repetition of a test of single characters; `passes` tells whether it accepts the character
behind a place. -/
def unitLoop (passes : Nat → Bool) (whole : Bool) (size least : Nat) (most : Option Nat)
    (greed : Greed) : Matcher := fun st k =>
  let ends := (reach passes (most.getD (size - st.position)) st.position).drop least
  match greed with
  | .greedy => atEach whole st.marks k ends.reverse st.marks
  | .lazy => atEach whole st.marks k ends st.marks
  | .possessive =>
    match ends.getLast? with
    | some place => k ⟨place, st.marks⟩
    | none => .failed st.marks

/-- So many repetitions. -/
def exactly (m : Matcher) : (times : Nat) → Matcher
  | 0, st, k => k st
  | times + 1, st, k => m st fun st => exactly m times st k

/-- Up to so many further repetitions, the most first; the last one began at `last`. What a
repetition that is given up leaves behind is forgotten altogether. -/
def greedy (m : Matcher) : (times : Nat) → (last : Option Nat) → Matcher
  | 0, _, st, k => k st
  | times + 1, last, st, k =>
    if last = some st.position then k st
    else (m st fun next => greedy m times (some st.position) next k).orElse fun _ => k st

/-- Up to so many further repetitions, the fewest first; the last one began at `last`. -/
def lazily (whole : Bool) (m : Matcher) : (times : Nat) → (last : Option Nat) → Matcher
  | 0, _, st, k => (k st).orElse fun left => .failed (Marks.takeBack whole st.marks left)
  | times + 1, last, st, k =>
    (k st).orElse fun left =>
      let back := Marks.takeBack whole st.marks left
      if last = some st.position then .failed back
      else m ⟨st.position, back⟩ fun next => lazily whole m times (some st.position) next k

/-- So many repetitions, each in its first way. -/
def exactlyFirst (m : Matcher) : (times : Nat) → MatchState → Trial
  | 0, st => .matched st
  | times + 1, st => (m.first st).andThen (exactlyFirst m times)

/-- As many further repetitions as there are up to a number, each in its first way; the last one
began at `last`. What the first one that fails leaves behind is forgotten altogether. -/
def possessively (m : Matcher) : (times : Nat) → (last : Option Nat) → MatchState → MatchState
  | 0, _, st => st
  | times + 1, last, st =>
    if last = some st.position then st
    else match m.first st with
      | .matched next => possessively m times (some st.position) next
      | .failed _ => st

/-- How many repetitions beyond the least count need to be considered when the text has `size`
characters. -/
def further (least : Nat) (most : Option Nat) (size position : Nat) : Nat :=
  match most with
  | some most => most - least
  | none => size - position + 1

/-- Repetition. -/
def loop (whole : Bool) (m : Matcher) (size least : Nat) (most : Option Nat) : Greed → Matcher
  | .greedy, st, k => exactly m least st fun st =>
      greedy m (further least most size st.position) none st k
  | .lazy, st, k => exactly m least st fun st =>
      lazily whole m (further least most size st.position) none st k
  | .possessive, st, k => (exactlyFirst m least st).andThen fun st =>
      k (possessively m (further least most size st.position) none st)

/-- What is ahead or, when looked for from further back, behind: whether the look was to succeed or
to fail, the position stays where it was. -/
def look (whole negated : Bool) (st : MatchState) (found : Option Trial) : Continuation → Trial :=
  fun k => match found, negated with
    | some (.matched inside), false => k ⟨st.position, inside.marks⟩
    | some (.matched inside), true => .failed inside.marks
    | some (.failed left), false => .failed left
    | some (.failed left), true => k ⟨st.position, Marks.takeBack whole st.marks left⟩
    | none, false => .failed st.marks
    | none, true => k st

end Matcher

namespace Anchor

/-- Is the character at the position a word character? There is none outside of the text. -/
def wordAt (unicode : Bool) (s : Array Char) (position : Nat) : Bool :=
  (s[position]?).any (Category.word.holds unicode)

/-- Does the test of a place succeed? -/
def holds (s : Array Char) (position : Nat) : Anchor → Bool
  | textStart => position == 0
  | lineStart => position == 0 || s[position - 1]? == some '\n'
  | textEnd => position == s.size
  | lastLineEnd => position == s.size || (position + 1 == s.size && s[position]? == some '\n')
  | lineEnd => position == s.size || s[position]? == some '\n'
  | boundary unicode negated =>
    !s.isEmpty &&
      ((position != 0 && wordAt unicode s (position - 1)) != wordAt unicode s position) != negated

end Anchor

/-- Do the `length` characters at two positions agree? -/
def agree (s : Array Char) (m : Mode) (a b : Nat) : (length : Nat) → Bool
  | 0 => true
  | length + 1 =>
    (match s[a]?, s[b]? with
      | some x, some y =>
        x == y || (m.ignoreCase && m.lower x.toNat == m.lower y.toNat)
      | _, _ => false) && agree s m (a + 1) (b + 1) length

namespace Node

/-- The test of a single character that a tree is, be it in groups without a number. -/
def unit? : Node → Option (Test × Mode)
  | one test mode => some (test, mode)
  | group none body => body.unit?
  | _ => none

/-- Tries the ways to match a tree; `whole` in the body of a greedy or lazy repetition. -/
def run (s : Array Char) (whole : Bool) : Node → Matcher
  | empty, st, k => k st
  | one test mode, st, k =>
    if (s[st.position]?).any (test.accepts mode) then k { st with position := st.position + 1 }
    else .failed st.marks
  | anchor a, st, k => if a.holds s st.position then k st else .failed st.marks
  | seq a b, st, k => a.run s whole st fun st => b.run s whole st k
  | alt a b, st, k => Matcher.either whole (a.run s whole) (b.run s whole) st k
  | group none body, st, k => body.run s whole st k
  | group (some g) body, st, k => body.run s whole (st.enter g) fun st => k (st.leave g)
  | again g mode, st, k =>
    match st.marks.span? g with
    | some (a, b) =>
      if agree s mode a st.position (b - a) then
        k { st with position := st.position + (b - a) }
      else .failed st.marks
    | none => .failed st.marks
  | given g yes no, st, k =>
    if (st.marks.span? g).isSome then yes.run s whole st k else no.run s whole st k
  | loop least most greed body, st, k =>
    match body.unit? with
    | some (test, mode) =>
      Matcher.unitLoop (fun i => (s[i]?).any (test.accepts mode)) whole s.size least most greed st k
    | none =>
      Matcher.loop whole (body.run s (whole || greed != .possessive)) s.size least most greed st k
  | atomic body, st, k => (body.run s whole st .matched).andThen k
  | ahead negated body, st, k =>
    Matcher.look whole negated st (some (body.run s whole st .matched)) k
  | behind negated least _ body, st, k =>
    Matcher.look whole negated st
      (if least ≤ st.position then
        some (body.run s whole ⟨st.position - least, st.marks⟩ .matched)
      else none) k

end Node

end Substitution
