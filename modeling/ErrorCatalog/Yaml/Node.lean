import ErrorCatalog.Yaml.Scalar

/-!
# Documents

A document is a tree of scalars, sequences, mappings and aliases. Nodes can be
anchored; an anchor has a number, by which aliases refer to it.

- `Node.anchored` lists the anchored nodes;
- `Document.target?` is the node that an alias stands for.
-/

namespace ErrorCatalog

namespace Yaml

/-- A node of a document. -/
inductive Node where
  | scalar (anchor : Option Nat) (content : Scalar)
  | sequence (anchor : Option Nat) (tag : Option Tag) (items : List Node)
  | mapping (anchor : Option Nat) (tag : Option Tag) (entries : List (Node × Node))
  | alias (number : Nat)
  deriving Inhabited

namespace Node

/-- The number of the anchor of a node. -/
def anchor? : Node → Option Nat
  | .scalar anchor _ => anchor
  | .sequence anchor _ _ => anchor
  | .mapping anchor _ _ => anchor
  | .alias _ => none

mutual

/-- The number of marks that a node is made of: one for a scalar and for an alias, and one for
each end of a collection. -/
def size : Node → Nat
  | .scalar _ _ => 1
  | .sequence _ _ items => sizeOfItems items + 2
  | .mapping _ _ entries => sizeOfEntries entries + 2
  | .alias _ => 1

/-- The number of marks that the items of a sequence are made of. -/
def sizeOfItems : List Node → Nat
  | [] => 0
  | item :: rest => item.size + sizeOfItems rest

/-- The number of marks that the entries of a mapping are made of. -/
def sizeOfEntries : List (Node × Node) → Nat
  | [] => 0
  | (key, value) :: rest => key.size + value.size + sizeOfEntries rest

end

mutual

/-- The anchored nodes with their numbers, each before those inside of it. -/
def anchored : Node → List (Nat × Node)
  | .scalar anchor content => (anchor.map fun number => (number, .scalar anchor content)).toList
  | .sequence anchor tag items =>
      (anchor.map fun number => (number, .sequence anchor tag items)).toList ++
        anchoredItems items
  | .mapping anchor tag entries =>
      (anchor.map fun number => (number, .mapping anchor tag entries)).toList ++
        anchoredEntries entries
  | .alias _ => []

/-- The anchored nodes in the items of a sequence. -/
def anchoredItems : List Node → List (Nat × Node)
  | [] => []
  | item :: rest => item.anchored ++ anchoredItems rest

/-- The anchored nodes in the entries of a mapping. -/
def anchoredEntries : List (Node × Node) → List (Nat × Node)
  | [] => []
  | (key, value) :: rest => key.anchored ++ value.anchored ++ anchoredEntries rest

end

end Node

/-- A document. -/
structure Document where
  root : Node
  /-- The anchored nodes with their numbers, the last ones first. -/
  anchored : List (Nat × Node)
  aliasLimit : Nat

namespace Document

/-- The document of a node. A hundred aliases may be followed for each mark of it. -/
def ofNode (root : Node) : Document where
  root := root
  anchored := root.anchored.reverse
  aliasLimit := root.size * 100

/-- The node that an alias stands for: of several anchors with one number the last one counts. -/
def target? (document : Document) (number : Nat) : Option Node :=
  (document.anchored.find? fun entry => entry.1 = number).map (·.2)

end Document

end Yaml

end ErrorCatalog
