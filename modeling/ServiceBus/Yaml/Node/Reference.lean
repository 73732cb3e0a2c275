import ServiceBus.Yaml.Node

set_option autoImplicit false

/-! # References in a YAML document

An alias stands for the node that has the anchor of this name in front of it. Names are replaced
by numbers (`Node.numbered?`), and a number stands for the last node that it is given to
(`Node.targets`). A name gets as its number how many names there have been. So a name that is
used again gets a number that the next new name gets as well. -/

namespace ServiceBus.Yaml

/-- The numbers of the names that have been used. -/
abbrev Numbering := List (String × Nat)

/-- Give a name its number. -/
def Numbering.define (names : Numbering) (name : String) : Numbering :=
  (name, names.length) :: names.filter fun e => e.1 ≠ name

/-- Replace the name of an anchor by a number. -/
def Properties.numbered (names : Numbering) (p : Properties String) : Properties Nat × Numbering :=
  match p.anchor with
  | none => ({ tag := p.tag }, names)
  | some name => (⟨some names.length, p.tag⟩, names.define name)

namespace Node

mutual

/-- Replace the names in a node by numbers. -/
def numberedFrom (names : Numbering) : Node String → Option (Node Nat × Numbering)
  | .alias name => (names.lookup name).map fun i => (.alias i, names)
  | .scalar p plain text =>
      let (p, names) := p.numbered names
      some (.scalar p plain text, names)
  | .sequence p items =>
      let (p, names) := p.numbered names
      (numberedItems names items).map fun r => (.sequence p r.1, r.2)
  | .mapping p entries =>
      let (p, names) := p.numbered names
      (numberedEntries names entries).map fun r => (.mapping p r.1, r.2)

/-- Replace the names in some nodes by numbers. -/
def numberedItems (names : Numbering) : List (Node String) → Option (List (Node Nat) × Numbering)
  | [] => some ([], names)
  | n :: rest =>
      match numberedFrom names n with
      | none => none
      | some (n, names) => (numberedItems names rest).map fun r => (n :: r.1, r.2)

/-- Replace the names in some entries by numbers. -/
def numberedEntries (names : Numbering) :
    List (Node String × Node String) → Option (List (Node Nat × Node Nat) × Numbering)
  | [] => some ([], names)
  | (k, v) :: rest =>
      match numberedFrom names k with
      | none => none
      | some (k, names) =>
          match numberedFrom names v with
          | none => none
          | some (v, names) => (numberedEntries names rest).map fun r => ((k, v) :: r.1, r.2)

end

/-- A document with numbers for names, unless an alias has a name that is not known. -/
def numbered? (n : Node String) : Option (Node Nat) := (numberedFrom [] n).map Prod.fst

mutual

/-- The nodes that have an anchor, in the order of the document. -/
def anchored : Node Nat → List (Nat × Node Nat)
  | .alias _ => []
  | .scalar p plain text => p.anchor.toList.map fun i => (i, .scalar p plain text)
  | .sequence p items =>
      (p.anchor.toList.map fun i => (i, .sequence p items)) ++ anchoredItems items
  | .mapping p entries =>
      (p.anchor.toList.map fun i => (i, .mapping p entries)) ++ anchoredEntries entries

/-- The nodes among some nodes that have an anchor. -/
def anchoredItems : List (Node Nat) → List (Nat × Node Nat)
  | [] => []
  | n :: rest => n.anchored ++ anchoredItems rest

/-- The nodes in some entries that have an anchor. -/
def anchoredEntries : List (Node Nat × Node Nat) → List (Nat × Node Nat)
  | [] => []
  | (k, v) :: rest => k.anchored ++ (v.anchored ++ anchoredEntries rest)

end

/-- What the numbers in a document stand for. -/
def targets (n : Node Nat) : List (Nat × Node Nat) := n.anchored.reverse

end Node

end ServiceBus.Yaml
