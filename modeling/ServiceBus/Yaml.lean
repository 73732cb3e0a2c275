import ServiceBus.Decimal.Binary64

set_option autoImplicit false

/-! # YAML values

The tree that a YAML document stands for. Keys of mappings may be any values; a mapping keeps
its entries in the order of the document. A value may carry a tag that an application is free to
interpret, and that is mostly looked through (`untagged`). -/

namespace ServiceBus

/-- A YAML value. -/
inductive Yaml where
  | null
  | bool (b : Bool)
  | int (n : Int)
  | float (x : Binary64)
  | string (s : String)
  | sequence (items : List Yaml)
  | mapping (entries : List (Yaml × Yaml))
  | tagged (tag : String) (v : Yaml)
  deriving Inhabited

namespace Yaml

/-- The value without tags. -/
def untagged : Yaml → Yaml
  | .tagged _ v => v.untagged
  | v => v

/-- Whether two floating-point numbers are the same key. -/
def sameFloat (x y : Binary64) : Bool :=
  x.toFloat == y.toFloat || (x.toFloat.isNaN && y.toFloat.isNaN)

mutual

/-- Whether two values are the same key. -/
def same : Yaml → Yaml → Bool
  | .null, .null => true
  | .bool a, .bool b => a == b
  | .int a, .int b => a == b
  | .float a, .float b => sameFloat a b
  | .string a, .string b => a == b
  | .sequence a, .sequence b => sameItems a b
  | .mapping a, .mapping b => a.length == b.length && sameEntries a b
  | .tagged s a, .tagged t b => s == t && same a b
  | _, _ => false

/-- Whether two lists have the same items. -/
def sameItems : List Yaml → List Yaml → Bool
  | [], [] => true
  | v :: vs, w :: ws => same v w && sameItems vs ws
  | _, _ => false

/-- Whether all entries of a list are in another one, in whatever order. -/
def sameEntries : List (Yaml × Yaml) → List (Yaml × Yaml) → Bool
  | [], _ => true
  | (k, v) :: rest, entries =>
      (entries.any fun e => same k e.1 && same v e.2) && sameEntries rest entries

end

/-- The value under a key. -/
def find? (k : Yaml) : List (Yaml × Yaml) → Option Yaml
  | [] => none
  | (l, v) :: rest => if same k l then some v else find? k rest

/-- The entries with another value under a key that is there. -/
def replace (k v : Yaml) : List (Yaml × Yaml) → List (Yaml × Yaml)
  | [] => []
  | (l, w) :: rest => if same k l then (l, v) :: rest else (l, w) :: replace k v rest

/-- The entries without the one under a key, in whose place the last entry is put. -/
def discard (k : Yaml) : List (Yaml × Yaml) → List (Yaml × Yaml)
  | [] => []
  | (l, w) :: rest =>
      if same k l then
        match rest.getLast? with
        | some last => last :: rest.dropLast
        | none => []
      else (l, w) :: discard k rest

/-- The value under a key of a mapping; tags of the mapping are looked through. -/
def get? (v : Yaml) (k : Yaml) : Option Yaml :=
  match v.untagged with
  | .mapping entries => find? k entries
  | _ => none

end Yaml

end ServiceBus
