import SovdConfig.Yaml.Token

namespace SovdConfig.Yaml

/-!
# Nodes of YAML documents

Main definitions:

* `Label` — what is known of a node besides its contents;
* `Node` — a scalar, a collection, or an alias of another node;
* `Node.size` — how many places of the text a node is made of;
* `Node.anchored` — the nodes that aliases may name.

A text need not be well-formed to its end.  Where a document breaks off, its last node is `broken`,
so that what comes before can still be read, and found to be of the wrong shape.
-/

/-- What is known of a node besides its contents.  Anchors are numbered. -/
structure Label where
  mark : Mark
  anchor : Option Nat := none
  tag : Option String := none
deriving DecidableEq, Repr, Inhabited

/-- A node of a document. -/
inductive Node
  | scalar (label : Label) (text : String) (style : ScalarStyle)
  | sequence (label : Label) (items : List Node)
  | mapping (label : Label) (members : List (Node × Node))
  /-- The node whose anchor has the given number. -/
  | reference (mark : Mark) (anchor : Nat)
  /-- From here on the text is not well-formed. -/
  | broken
deriving Inhabited

namespace Node

/-- A scalar that is not written. -/
def emptyAt (mark : Mark) : Node := scalar { mark } "" .plain

/-- The number of an anchor and the node that has it, if it has one. -/
def withAnchor (label : Label) (n : Node) : List (Nat × Node) :=
  match label.anchor with
  | some number => [(number, n)]
  | none => []

mutual

/-- Whether the text is well-formed up to the end of the node. -/
def isWhole : Node → Bool
  | scalar .. => true
  | sequence _ items => areWhole items
  | mapping _ members => areWholeMembers members
  | reference .. => true
  | broken => false

/-- Whether the text is well-formed up to the end of the nodes. -/
def areWhole : List Node → Bool
  | [] => true
  | n :: rest => n.isWhole && areWhole rest

/-- Whether the text is well-formed up to the end of the members. -/
def areWholeMembers : List (Node × Node) → Bool
  | [] => true
  | (k, v) :: rest => k.isWhole && v.isWhole && areWholeMembers rest

end

mutual

/-- How many places of the text the node is made of: a collection has its start, its parts, and its
    end if the text gets that far. -/
def size : Node → Nat
  | scalar .. => 1
  | sequence _ items => 1 + sizeAll items + (areWhole items).toNat
  | mapping _ members => 1 + sizeMembers members + (areWholeMembers members).toNat
  | reference .. => 1
  | broken => 0

/-- The places that the nodes are made of. -/
def sizeAll : List Node → Nat
  | [] => 0
  | n :: rest => n.size + sizeAll rest

/-- The places that the members are made of. -/
def sizeMembers : List (Node × Node) → Nat
  | [] => 0
  | (k, v) :: rest => k.size + v.size + sizeMembers rest

end

mutual

/-- The nodes with anchors, in the order of the text. -/
def anchored : Node → List (Nat × Node)
  | scalar label text style => withAnchor label (scalar label text style)
  | sequence label items => withAnchor label (sequence label items) ++ anchoredAll items
  | mapping label members => withAnchor label (mapping label members) ++ anchoredMembers members
  | reference .. => []
  | broken => []

/-- The nodes with anchors among the given ones and their parts. -/
def anchoredAll : List Node → List (Nat × Node)
  | [] => []
  | n :: rest => n.anchored ++ anchoredAll rest

/-- The nodes with anchors among the given members and their parts. -/
def anchoredMembers : List (Node × Node) → List (Nat × Node)
  | [] => []
  | (k, v) :: rest => k.anchored ++ v.anchored ++ anchoredMembers rest

end

end Node

end SovdConfig.Yaml
