import ServiceBus.Yaml.Tag

set_option autoImplicit false

/-! # Tokens of a YAML text

The tokens say where collections begin and end, also those that are only indented. -/

namespace ServiceBus.Yaml

/-- A token. -/
inductive Token where
  | version (major minor : Nat)
  /-- What a handle of tags stands for. -/
  | shorthand (handle : String) (replacement : Tag)
  | documentStart
  | documentEnd
  | blockSequence
  | blockMapping
  | blockEnd
  | openSequence
  | closeSequence
  | openMapping
  | closeMapping
  | entry
  | comma
  | key
  | value
  | alias (name : String)
  | anchor (name : String)
  | tag (handle : String) (suffix : Tag)
  | scalar (plain : Bool) (text : String)
  deriving DecidableEq

end ServiceBus.Yaml
