import Substitution.Pattern.Node

/-!
# Branches of a pattern

While a pattern is read, the branch at hand is a list of **pieces**. A piece is what a quantifier
after it would repeat: one node, or the whole of a plain group `(?:…)`. When the branch ends, plain
groups dissolve into their nodes.

`Substitution.Branch.join` makes one list of nodes of several branches. Leaves that all branches
start with are tried once, in front; and if each branch then is a single test of a code point or of
a set that is no complement, the branches together are one set.
-/

namespace Substitution

/-- What a quantifier would repeat. -/
structure Piece where
  nodes : List Node
  /-- Is it a plain group? -/
  plain : Bool
deriving Repr

namespace Piece

/-- The piece of a single node. -/
def single (n : Node) : Piece :=
  ⟨[n], false⟩

/-- Is the piece a test of a place? -/
def isAnchor (p : Piece) : Bool :=
  match p.nodes with
  | [.anchor _] => !p.plain
  | _ => false

/-- Is the piece repeated already? -/
def isLoop (p : Piece) : Bool :=
  match p.nodes with
  | [.loop ..] => !p.plain
  | _ => false

end Piece

namespace Branch

/-- The nodes of a branch whose pieces are given last piece first. -/
def nodes (pieces : List Piece) : List Node :=
  pieces.reverse.flatMap Piece.nodes

/-- Does the branch start with this leaf? -/
def startsWith (n : Node) : List Node → Bool
  | [] => false
  | m :: _ => n.sameLeaf m

/-- The leaves that all branches start with, and the branches after these leaves. -/
def factor : List Node → List (List Node) → List Node × List (List Node)
  | [], others => ([], [] :: others)
  | n :: rest, others =>
    if others.all (startsWith n) then
      let r := factor rest (others.map List.tail)
      (n :: r.1, r.2)
    else ([], (n :: rest) :: others)

/-- The members of a set that accepts what the branch accepts, if it is a test that fits in a set.
-/
def setItems? : List Node → Option (Mode × List SetItem)
  | [.one (.code c false) m] => some (m, [.code c])
  | [.one (.set items false) m] => some (m, items)
  | _ => none

/-- One set in place of branches that all fit in a set. -/
def asSet? (branches : List (List Node)) : Option Node :=
  match branches.mapM setItems? with
  | some ((m, items) :: others) =>
    some (.one (.set (items ++ others.flatMap Prod.snd).eraseDups false) m)
  | _ => none

/-- The nodes that stand for the given alternatives. -/
def join : List (List Node) → List Node
  | [] => []
  | [branch] => branch
  | branch :: others =>
    let (leaves, branches) := factor branch others
    leaves ++ [(asSet? branches).getD (.anyOf (branches.map .ofList))]

end Branch

end Substitution
