import ServiceBus.Yaml

set_option autoImplicit false

/-! # Merging YAML values

A value is laid over another one: mappings are merged key by key, at all levels, and any other
value replaces what it is laid over. Keys that are only in the upper mapping are appended. -/

namespace ServiceBus.Yaml

mutual

/-- Lay a value over `base`. -/
def merge (base : Yaml) : Yaml → Yaml
  | .mapping upper =>
      match base with
      | .mapping lower => .mapping (mergeEntries lower upper)
      | _ => .mapping upper
  | v => v

/-- Lay entries over the entries `lower`. -/
def mergeEntries (lower : List (Yaml × Yaml)) : List (Yaml × Yaml) → List (Yaml × Yaml)
  | [] => lower
  | (k, v) :: upper =>
      let lower :=
        match find? k lower with
        | some w => replace k (merge w v) lower
        | none => lower ++ [(k, v)]
      mergeEntries lower upper

end

end ServiceBus.Yaml
