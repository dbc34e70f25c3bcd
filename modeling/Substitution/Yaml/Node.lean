import Substitution.Yaml.Tag

/-!
# Nodes

A document is a tree of nodes: scalars, sequences and mappings, each with its type and perhaps an
anchor, and aliases, which stand for the node with their anchor. No two nodes of a document have the
same anchor, and an alias comes after the anchor that it names; it may stand inside the very node
that it stands for.
-/

namespace Substitution

namespace Yaml

/-- A node of a document. -/
inductive Node where
  | scalar (anchor : Option Text) (tag : Tag) (text : Text)
  | sequence (anchor : Option Text) (tag : Tag) (items : List Node)
  | mapping (anchor : Option Text) (tag : Tag) (entries : List (Node × Node))
  | aliasOf (name : Text)

namespace Node

/-- The anchor of a node. -/
def anchor : Node → Option Text
  | scalar a _ _ => a
  | sequence a _ _ => a
  | mapping a _ _ => a
  | aliasOf _ => none

/-- A node of which nothing is written: nothing, if it has no type. -/
def empty : Node :=
  scalar none .null []

/-- The nodes with an anchor, each with its name. -/
def anchored : Node → List (Text × Node)
  | scalar a t text => (a.map fun name => (name, scalar a t text)).toList
  | sequence a t items =>
    (a.map fun name => (name, sequence a t items)).toList ++ anchoredItems items
  | mapping a t entries =>
    (a.map fun name => (name, mapping a t entries)).toList ++ anchoredEntries entries
  | aliasOf _ => []
where
  /-- The nodes with an anchor in the items of a sequence. -/
  anchoredItems : List Node → List (Text × Node)
    | [] => []
    | n :: rest => anchored n ++ anchoredItems rest
  /-- The nodes with an anchor in the entries of a mapping. -/
  anchoredEntries : List (Node × Node) → List (Text × Node)
    | [] => []
    | (k, v) :: rest => anchored k ++ anchored v ++ anchoredEntries rest

end Node

end Yaml

end Substitution
