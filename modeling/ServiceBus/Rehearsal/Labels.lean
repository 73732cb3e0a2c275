import ServiceBus.Json
import ServiceBus.Uuid

set_option autoImplicit false

/-! # Labels for identifiers

Identifiers that are drawn while a rehearsal runs differ from run to run. To compare runs, they
are replaced by labels in the order in which they appear. Those that a script gives begin with
zeros, and stay as they are. -/

namespace ServiceBus.Rehearsal

/-- The identifiers that have labels, in the order of these. -/
abbrev Labelling := StateM (List String)

/-- The identifier that stands at the start of a text, if it has been drawn. -/
def drawnAt? (s : List Char) : Option String :=
  if s[8]? ≠ some '-' || s.take 8 = List.replicate 8 '0' then none
  else
    let u := String.ofList (s.take 36)
    if (Uuid.ofText? u).map Uuid.text = some u then some u else none

/-- The label of an identifier. -/
def labelOf (u : String) : Labelling String := fun known =>
  match known.idxOf? u with
  | some i => ("gen#" ++ toString (i + 1), known)
  | none => ("gen#" ++ toString (known.length + 1), known ++ [u])

/-- Skip some characters, and then replace identifiers; `done` is in reverse. -/
def labelText (done : List Char) : Nat → List Char → Labelling String
  | _, [] => pure (String.ofList done.reverse)
  | k + 1, _ :: s => labelText done k s
  | 0, c :: s =>
      match drawnAt? (c :: s) with
      | none => labelText (c :: done) 0 s
      | some u => do
          let label ← labelOf u
          labelText (label.toList.reverse ++ done) 35 s

mutual

/-- Replace the identifiers in a document. -/
def label : Json → Labelling Json
  | .string s => do pure (.string (← labelText [] 0 s.toList))
  | .array items => do pure (.array (← labelItems items))
  | .object members => do pure (.object (← labelMembers members))
  | v => pure v

/-- Replace the identifiers in some documents. -/
def labelItems : List Json → Labelling (List Json)
  | [] => pure []
  | v :: rest => do pure ((← label v) :: (← labelItems rest))

/-- Replace the identifiers in the values of some members. -/
def labelMembers : List (String × Json) → Labelling (List (String × Json))
  | [] => pure []
  | (name, v) :: rest => do pure ((name, ← label v) :: (← labelMembers rest))

end

end ServiceBus.Rehearsal
