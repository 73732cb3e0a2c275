import ServiceBus.Yaml.Node.Reader
import ServiceBus.Yaml.Node.Reference
import ServiceBus.Yaml.Scalar.Meaning
import ServiceBus.Yaml.Token.Reader

set_option autoImplicit false

/-! # Reading YAML text

A text is split into tokens, tokens make up a node, and a node stands for a value. Collections
are nested up to a bound, also by way of references, and the number of references that are
followed is bounded by the size of the document. No two keys of a mapping are the same. -/

namespace ServiceBus.Yaml

/-- How deep collections may be nested. -/
def maxDepth : Nat := 128

/-- Work that follows references; the state is how many may still be followed. -/
abbrev Following := StateT Nat Option

/-- The node that a node stands for. -/
def follow (targets : List (Nat × Node Nat)) (n : Node Nat) : Following (Node Nat) := fun left =>
  match n with
  | .alias i => if left = 0 then none else (targets.lookup i).map fun m => (m, left - 1)
  | n => some (n, left)

/-- Whether no two keys are the same. -/
def distinct : List (Yaml × Yaml) → Bool
  | [] => true
  | (k, _) :: rest => (find? k rest).isNone && distinct rest

/-- The value of a mapping with a tag. -/
def ofEntries? (tag : Option Tag) (entries : List (Yaml × Yaml)) : Option Yaml :=
  if distinct entries then some (Scalar.withTag tag (.mapping entries)) else none

/-- The value of a node in which collections are nested up to a depth. -/
def ofNode (targets : List (Nat × Node Nat)) : Nat → Node Nat → Following Yaml
  | 0, n => do
      match ← follow targets n with
      | .scalar p plain text => StateT.lift (Scalar.value? p.tag plain text)
      | _ => failure
  | depth + 1, n => do
      match ← follow targets n with
      | .alias _ => failure
      | .scalar p plain text => StateT.lift (Scalar.value? p.tag plain text)
      | .sequence p items =>
          let items ← items.mapM (ofNode targets depth)
          pure (Scalar.withTag p.tag (.sequence items))
      | .mapping p entries =>
          let entries ← entries.mapM fun e => do
            pure (← ofNode targets depth e.1, ← ofNode targets depth e.2)
          StateT.lift (ofEntries? p.tag entries)

/-- The value that a document stands for. -/
def ofDocument? (n : Node Nat) : Option Yaml :=
  ((ofNode n.targets maxDepth n).run (100 * n.size)).map Prod.fst

/-- The value that a text stands for. -/
def ofText? (s : String) : Option Yaml :=
  (Token.ofText? s).bind fun ts =>
    (Node.ofTokens? ts).bind fun n => n.numbered?.bind ofDocument?

end ServiceBus.Yaml
