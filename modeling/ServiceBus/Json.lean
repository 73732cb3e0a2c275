import ServiceBus.Decimal.Binary64

set_option autoImplicit false

/-! # JSON values

The tree that a JSON text stands for. A number is whole or a binary floating-point number; the
members of an object are kept in a list, in ascending order of their names where the tree comes
from a text. -/

namespace ServiceBus

/-- A JSON value. -/
inductive Json where
  | null
  | bool (b : Bool)
  | int (n : Int)
  | float (x : Binary64)
  | string (s : String)
  | array (items : List Json)
  | object (members : List (String × Json))
  deriving Inhabited

namespace Json

/-- The member of an object with the name. -/
def member? (name : String) : Json → Option Json
  | .object members => members.lookup name
  | _ => none

/-- A text that may be absent. -/
def ofText? : Option String → Json
  | none => .null
  | some s => .string s

end Json

end ServiceBus
