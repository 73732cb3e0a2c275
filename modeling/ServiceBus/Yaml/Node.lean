import ServiceBus.Yaml.Tag

set_option autoImplicit false

/-! # Nodes of a YAML document

The tree that a document is written as. A node may be given a name (an anchor), by which a later
node refers to it, and a tag. Names are of any type `α`: texts where a document is read, numbers
where references have been sorted out. -/

namespace ServiceBus.Yaml

/-- What stands in front of a node. -/
structure Properties (α : Type) where
  anchor : Option α := none
  tag : Option Tag := none
  deriving DecidableEq

/-- Whether anything stands in front of a node. -/
def Properties.arePresent {α : Type} (p : Properties α) : Bool := p.anchor.isSome || p.tag.isSome

/-- A node. -/
inductive Node (α : Type) where
  /-- A reference to a node with an anchor. -/
  | alias (target : α)
  | scalar (p : Properties α) (plain : Bool) (text : String)
  | sequence (p : Properties α) (items : List (Node α))
  | mapping (p : Properties α) (entries : List (Node α × Node α))

namespace Node

variable {α : Type}

/-- A node that is not written. -/
def absent : Node α := .scalar {} true ""

mutual

/-- The size of a node: two for a collection, and one for any other. -/
def size : Node α → Nat
  | .alias _ => 1
  | .scalar _ _ _ => 1
  | .sequence _ items => 2 + sizeOfItems items
  | .mapping _ entries => 2 + sizeOfEntries entries

/-- The size of some nodes. -/
def sizeOfItems : List (Node α) → Nat
  | [] => 0
  | n :: rest => n.size + sizeOfItems rest

/-- The size of the nodes in some entries. -/
def sizeOfEntries : List (Node α × Node α) → Nat
  | [] => 0
  | (k, v) :: rest => k.size + v.size + sizeOfEntries rest

end

end Node

end ServiceBus.Yaml
