set_option autoImplicit false

/-! # Cursors over candidates

A cursor tells how far a call has got in a ranked list of candidates. It only moves forward and
never starts again, so that each candidate is tried at most once; a success ends it, and so does
the end of the list. -/

namespace ServiceBus.Failover

/-- How far a call has got. -/
inductive Progress where
  | notStarted
  /-- The candidate with this index is being tried. -/
  | attempting (index : Nat)
  /-- The candidate with this index has answered. -/
  | succeeded (index : Nat)
  /-- Every candidate has been tried. -/
  | exhausted
  deriving DecidableEq, Repr, Inhabited

/-- Whether the call is over. -/
def Progress.isTerminal : Progress → Bool
  | .succeeded _ | .exhausted => true
  | .notStarted | .attempting _ => false

/-- The progress in words. -/
def Progress.text : Progress → String
  | .notStarted => "not_started"
  | .attempting index => "attempting(" ++ toString index ++ ")"
  | .succeeded index => "succeeded(" ++ toString index ++ ")"
  | .exhausted => "exhausted"

/-- A position in a list of candidates. -/
structure Cursor where
  /-- How many candidates there are. -/
  candidates : Nat
  /-- How many candidates have been handed out, which is the index of the next one. -/
  attempts : Nat := 0
  progress : Progress := .notStarted
  deriving DecidableEq

namespace Cursor

/-- The index of the next candidate, if there is one, and the cursor afterwards. -/
def advance (c : Cursor) : Option Nat × Cursor :=
  if c.progress.isTerminal then (none, c)
  else if c.candidates ≤ c.attempts then (none, { c with progress := .exhausted })
  else
    (some c.attempts, { c with attempts := c.attempts + 1, progress := .attempting c.attempts })

/-- The cursor after the candidate that is being tried has answered. -/
def succeed (c : Cursor) : Cursor :=
  match c.progress with
  | .attempting index => { c with progress := .succeeded index }
  | _ => c

/-- How many candidates there are still to be handed out. -/
def remaining (c : Cursor) : Nat := c.candidates - c.attempts

end Cursor

end ServiceBus.Failover
