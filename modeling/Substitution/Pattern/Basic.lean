import Substitution.Pattern.Matcher
import Substitution.Pattern.Reader

/-!
# Patterns and their matches

`Substitution.Pattern.compile` gives the pattern that a text writes under given flags.
`Substitution.Pattern.scan` searches a text for its matches, from left to right, and
`Substitution.Pattern.matchesIn` lists them.

The matches do not overlap: the search for the next match begins where the last one ended. After an
empty match it accepts no empty match at that very place, but a longer one that begins there is
accepted. In a text of `n` characters there are hence at most `2 * n + 1` matches.

A search passes over the places where the set that leads the pattern, read as the flags of the whole
pattern say, does not hold the next character. So a class that leads the pattern in a group with a
reading of its own is met in both readings or not at all.

A match in which a group ends before it begins cannot be told of, and the search breaks off where it
finds one.
-/

namespace Substitution

namespace Node

/-- The greatest number of characters that a look-behind may look back. -/
def maxBehind : Nat := 4294967295

/-- The name under which a repetition is refused. -/
def loopName : Greed → Text
  | .greedy => "MAX_REPEAT".toList
  | .lazy => "MIN_REPEAT".toList
  | .possessive => "POSSESSIVE_REPEAT".toList

/-- The first defect of a tree, if there is one; `rigid` refuses repetitions. -/
def defect? (rigid : Bool) : Node → Option PatternDefect
  | empty => none
  | one _ _ => none
  | anchor _ => none
  | again _ _ => none
  | seq a b => (a.defect? rigid).or (b.defect? rigid)
  | alt a b => (a.defect? rigid).or (b.defect? rigid)
  | given _ yes no => (yes.defect? rigid).or (no.defect? rigid)
  | group _ body => body.defect? rigid
  | atomic body => body.defect? rigid
  | ahead _ body => body.defect? rigid
  | loop _ _ greed body => if rigid then some (.repetition (loopName greed)) else body.defect? rigid
  | behind _ least most body =>
    if maxBehind < least then some .lookbehindTooWide
    else if least ≠ most then some .lookbehindNotFixed
    else body.defect? rigid

/-- The set, or complement of a set, that leads a tree and is not compared without regard to case.
-/
def leadingSet? : Node → Option (List SetItem × Bool)
  | one (.set items negated) mode =>
    if mode.ignoreCase && items.any (SetItem.isCasedInFront mode) then none
    else some (items, negated)
  | seq a _ => leadingSet? a
  | group _ body => leadingSet? body
  | _ => none

end Node

/-- A pattern that can be matched. -/
structure Pattern where
  /-- The text of the pattern. -/
  text : Text
  /-- The number of its groups. -/
  groups : Nat
  root : Node
  /-- Do classes take their wide reading in the pattern as a whole? -/
  unicode : Bool
deriving Repr

/-- A match in a text. -/
structure Match where
  start : Nat
  stop : Nat
  /-- What each group has captured; the empty text if the group took no part. -/
  captures : List Text
deriving Repr, DecidableEq

/-- Why a search breaks off. -/
inductive SearchFault where
  /-- In the match that has been found, a group ends before it begins. -/
  | wrongSpan
deriving Repr, DecidableEq

/-- The message of a search that breaks off. -/
def SearchFault.message : SearchFault → Text
  | wrongSpan =>
    "The span of capturing group is wrong, please report a bug for the re module.".toList

/-- What a search for matches gives. -/
structure Scan where
  /-- The matches, from left to right. -/
  found : List Match
  /-- Why the search breaks off behind them, if it does. -/
  fault : Option SearchFault
deriving Repr, DecidableEq

namespace Pattern

/-- The pattern that a text writes under the given flags. -/
def compile (text : Text) (flags : Flags) : Except PatternError Pattern := do
  let tree ← PatternTree.read text flags
  match tree.root.defect? (tree.flags.has Flags.rigid) with
  | some defect => .error (.defective defect)
  | none => .ok ⟨text, tree.widths.length, tree.root, !tree.flags.has Flags.ascii⟩

/-- The text that a group has captured when a match is complete. -/
def capture (s : Array Char) (marks : Marks) (group : Nat) : Except SearchFault Text :=
  match marks.ends? group with
  | some (a, b) => if a ≤ b then .ok (s.extract a b).toList else .error .wrongSpan
  | none => .ok []

/-- The match that ends in a state. -/
def complete (p : Pattern) (s : Array Char) (start : Nat) (st : MatchState) :
    Except SearchFault Match :=
  ((List.range' 1 p.groups).mapM (capture s st.marks)).map fun captures =>
    ⟨start, st.position, captures⟩

/-- May a match begin at the position, judging by the set that leads the pattern? -/
def mayStart (p : Pattern) (s : Array Char) (position : Nat) : Bool :=
  match p.root.leadingSet? with
  | none => true
  | some (items, negated) =>
    (s[position]?).any fun c => items.any (SetItem.holds p.unicode c) != negated

/-- The match that begins at a position, or why there is none to tell of; with `advance` it must not
be empty. -/
def matchAt (p : Pattern) (s : Array Char) (advance : Bool) (position : Nat) :
    Option (Except SearchFault Match) :=
  if p.mayStart s position then
    match p.root.run s false ⟨position, []⟩ fun st =>
      if advance && st.position == position then .failed st.marks else .matched st with
    | .matched st => some (p.complete s position st)
    | .failed _ => none
  else none

/-- The first match that begins at the position or one of the `more` positions after it; with
`advance` it must not be empty if it begins at the first of them. -/
def search (p : Pattern) (s : Array Char) : (more : Nat) → (advance : Bool) → (position : Nat) →
    Option (Except SearchFault Match)
  | 0, advance, position => p.matchAt s advance position
  | more + 1, advance, position =>
    (p.matchAt s advance position).or (p.search s more false (position + 1))

/-- Searches for up to `limit` matches from the position on. -/
def scanFrom (p : Pattern) (s : Array Char) : (limit : Nat) → (advance : Bool) →
    (position : Nat) → Scan
  | 0, _, _ => ⟨[], none⟩
  | limit + 1, advance, position =>
    match p.search s (s.size - position) advance position with
    | none => ⟨[], none⟩
    | some (.error e) => ⟨[], some e⟩
    | some (.ok m) =>
      let rest := p.scanFrom s limit (m.stop == m.start) m.stop
      ⟨m :: rest.found, rest.fault⟩

/-- Searches a text for all matches. -/
def scan (p : Pattern) (source : Text) : Scan :=
  p.scanFrom source.toArray (2 * source.length + 2) false 0

/-- Searches a text for the first match only. -/
def scanFirst (p : Pattern) (source : Text) : Scan :=
  p.scanFrom source.toArray 1 false 0

/-- The matches in a text, from left to right. -/
def matchesIn (p : Pattern) (source : Text) : List Match :=
  (p.scan source).found

end Pattern

end Substitution
