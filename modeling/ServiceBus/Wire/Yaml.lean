import ServiceBus.Decimal.Positional
import ServiceBus.Wire.Form
import ServiceBus.Yaml

set_option autoImplicit false

/-! # Records in YAML documents

Tags are looked through, also those of keys. Where a record is expected, nothing counts as a
mapping without entries; a sequence is no record. -/

namespace ServiceBus.Wire

/-- A value as something that is found in a document. -/
def foundYaml : Yaml → String
  | .null => "unit value"
  | .bool b => foundFlag b
  | .int n => foundWhole n
  | .float x => foundFloat (Decimal.plainText x)
  | .string s => foundText s
  | .sequence _ => "sequence"
  | .mapping _ => "map"
  | .tagged _ v => foundYaml v

/-- What a key of a mapping names. -/
def yamlLabel (k : Yaml) : Label :=
  match k.untagged with
  | .string name => .name name
  | k => .other (foundYaml k)

/-- The members of a record in a YAML document. -/
def yamlShape (v : Yaml) : Shape Yaml :=
  match v.untagged with
  | .null => .named []
  | .mapping entries => .named (entries.map fun e => (yamlLabel e.1, e.2))
  | v => .other (foundYaml v)

/-- A natural number of a type. No YAML text gives a whole number that 64 bits cannot hold. -/
def yamlNatural (type : String) (v : Yaml) : Except DecodeError Nat :=
  match v.untagged with
  | .int n => if 0 ≤ n then .ok n.toNat else .error (.invalidValue (foundWhole n) type)
  | v => .error (.invalidType (foundYaml v) type)

/-- A truth value. -/
def yamlFlag (v : Yaml) : Except DecodeError Bool :=
  match v.untagged with
  | .bool b => .ok b
  | v => .error (.invalidType (foundYaml v) "a boolean")

instance : Document Yaml := ⟨yamlShape, yamlNatural, yamlFlag⟩

end ServiceBus.Wire
