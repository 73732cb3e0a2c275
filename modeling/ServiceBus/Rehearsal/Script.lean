import ServiceBus.Parties

set_option autoImplicit false

/-! # Scripts

A script says what a party does when it is asked, so that the bus can be rehearsed without the
real party. This file holds what scripts are made of: a change to the parts of an exchange
(`Change`), the outcome of a synchronous send (`Outcome`), and lines that are used up one after
the other (`cue`). -/

namespace ServiceBus.Rehearsal

/-- A change to the parts of an exchange. An absent part stays as it is. -/
structure Change where
  /-- The message that the slot is set to, or none to empty it. -/
  input : Option (Option Message) := none
  output : Option (Option Message) := none
  fault : Option (Option Message) := none
  target : Option String := none
  serviceId : Option String := none
  operation : Option String := none
  /-- Mark the exchange as failed. -/
  failure : Option ExchangeFailure := none
  /-- Set the status, also of an exchange that has just been marked as failed. -/
  status : Option Status := none
  deriving DecidableEq, Inhabited

/-- The exchange with the change made. -/
def Change.apply (c : Change) (e : Exchange) : Exchange :=
  let e :=
    { e with
      input := c.input.getD e.input
      output := c.output.getD e.output
      fault := c.fault.getD e.fault
      target := c.target.or e.target
      serviceId := c.serviceId.getD e.serviceId
      operation := c.operation.getD e.operation }
  let e :=
    match c.failure with
    | some failure => e.markError failure
    | none => e
  { e with status := c.status.getD e.status }

/-- What comes of a synchronous send. -/
structure Outcome where
  /-- The send never comes back. -/
  hangs : Bool := false
  /-- How long the send takes, in milliseconds. -/
  delay : Nat := 0
  /-- Answer with the body of the request behind this text. -/
  echo : Option String := none
  change : Change := {}
  failure : Option BusError := none
  deriving DecidableEq, Inhabited

namespace Outcome

/-- When the send comes back, and how. -/
def completion (o : Outcome) : Completion :=
  if o.hangs then .never else .after o.delay o.failure

/-- The exchange as the send leaves it when it comes back. -/
def changed (o : Outcome) (e : Exchange) : Exchange :=
  let e :=
    match o.echo with
    | some text => { e with output := some { body := text ++ (e.input.map (·.body)).getD "" } }
    | none => e
  o.change.apply e

/-- The answer under a time limit. An exchange that comes back late is as it was. -/
def answer (o : Outcome) (e : Exchange) (limit : Nat) : Answer :=
  { exchange := if (o.completion.within limit).isSome then o.changed e else e
    completion := o.completion }

end Outcome

/-- The next line of a script and those after it; a script that has ended goes on with empty
lines. -/
def cue {α : Type} [Inhabited α] : List α → α × List α
  | [] => (default, [])
  | line :: rest => (line, rest)

end ServiceBus.Rehearsal
