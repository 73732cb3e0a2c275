import ServiceBus.BusError

set_option autoImplicit false

/-! # Diagnostic texts

Values written out in full for diagnostics: the name of a case with its fields between curly
brackets, texts quoted, absent values as `None`. A fault document carries such a text of the
failure it reports. -/

namespace ServiceBus.Diagnostic

/-- A name and named fields between curly brackets. -/
def record (name : String) (fields : List (String × String)) : String :=
  name ++ " \x7b " ++ String.intercalate ", " (fields.map fun f => f.1 ++ ": " ++ f.2) ++ " \x7d"

/-- A truth value. -/
def flag (b : Bool) : String := if b then "true" else "false"

/-- A value that may be absent. -/
def option {α : Type} (form : α → String) : Option α → String
  | none => "None"
  | some a => "Some(" ++ form a ++ ")"

/-- A list between square brackets. -/
def list {α : Type} (form : α → String) (xs : List α) : String :=
  "[" ++ String.intercalate ", " (xs.map form) ++ "]"

/-- A set between curly brackets. -/
def set {α : Type} (form : α → String) (xs : List α) : String :=
  "\x7b" ++ String.intercalate ", " (xs.map form) ++ "\x7d"

/-- A failure. -/
def error : BusError → String
  | .infrastructure reason => record "Infrastructure" [("reason", Text.quote reason)]
  | .policyViolation kind reason =>
      record "PolicyViolation" [("kind", kind.title), ("reason", Text.quote reason)]
  | .participant operation message declared detail =>
      record "Participant"
        [("operation", Text.quote operation), ("message", Text.quote message),
          ("declared", flag declared), ("detail", option Text.quote detail)]
  | .messageNotAccepted serviceId operation reason =>
      record "MessageNotAccepted"
        [("service_id", Text.quote serviceId), ("operation", Text.quote operation),
          ("reason", Text.quote reason)]
  | .remote kind message =>
      record "Remote" [("kind", (word kind).capitalize), ("message", Text.quote message)]
  | .providerFault operation message =>
      record "ProviderFault"
        [("operation", Text.quote operation), ("message", Text.quote message)]
  | .configuration reason => "Configuration(" ++ Text.quote reason ++ ")"

end ServiceBus.Diagnostic
