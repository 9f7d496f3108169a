import HttpService.Yaml.Token.Basic

/-!
# Nodes of a document

The content of a document as a tree of scalars, sequences and mappings. A node may bear an anchor, and an
alias elsewhere stands for it.

Anchors are numbered: a node's number is how many names were in use before it. A name that is used again moves
to its new number, so it can happen that two nodes have one number; an alias stands for the later of the two.
-/

namespace HttpService.Yaml

/-- A node. -/
inductive Node where
  | scalar (tag : Option Octets) (style : ScalarStyle) (text : String)
  | sequence (tag : Option Octets) (items : List Node)
  | mapping (tag : Option Octets) (pairs : List (Node × Node))
  | alias (number : Nat)

/-- A scalar of which nothing is written. -/
def Node.nothing : Node := .scalar none .plain ""

/-- A node with an anchor. -/
structure Anchored where
  number : Nat
  /-- How many anchored nodes start before it. -/
  place : Nat
  node : Node

/-- A document. -/
structure Document where
  /-- The outermost node; none if the text holds no document. -/
  root : Option Node
  anchored : List Anchored
  /-- How many starts and ends of nodes there are. -/
  size : Nat

namespace Document

/-- The node that an alias of this number stands for. -/
def target? (d : Document) (number : Nat) : Option Node :=
  let later (best : Option Anchored) (a : Anchored) : Option Anchored :=
    -- Nodes come in the order in which they end, so the later start has to be looked for.
    if a.number = number && !best.any fun b => a.place < b.place then some a else best
  (d.anchored.foldl later none).map (·.node)

/-- The node itself, or the one that it stands for. -/
def follow? (d : Document) : Node → Option Node
  | .alias number => d.target? number
  | n => some n

end Document

end HttpService.Yaml
