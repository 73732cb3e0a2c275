import ServiceBus.Leg.IncomingRequest
import ServiceBus.Leg.Outgoing

set_option autoImplicit false

/-! # Commands

A command takes one exchange through one leg, which its role and scope select. It is executed
once: an execution without a role, a scope or an exchange changes nothing, and after an
execution there is no other.

A failure of the leg is recorded in the command. An incoming request that fails is refused; an
incoming response returns its failure; the outgoing legs return theirs if the command is set to
do so. Every leg ends with a terminal notification. -/

namespace ServiceBus

/-- An exchange to be taken through a leg. -/
structure Command where
  variant : Variant
  role : Option Role := none
  scope : Option Scope := none
  exchange : Option Exchange := none
  /-- The handler to use instead of the one registered. -/
  handler : Option HandlerName := none
  /-- Whether failures of outgoing legs are returned. -/
  rethrow : Bool := false
  executed : Bool := false
  /-- Whether the execution recorded a failure. -/
  failed : Bool := false
  /-- The failure recorded by the execution. -/
  failure : Option BusError := none
  began : Option Timestamp := none
  ended : Option Timestamp := none
  deriving DecidableEq

/-- What comes of an execution: a result, and everything as it is afterwards, with the calls
that were made. -/
structure Execution (σ α : Type) where
  result : Except BusError α
  command : Command
  bus : Bus σ
  supply : Supply
  trace : List Entry := []

namespace Command

variable {σ : Type} (env : Environment σ)

/-- A new command, which returns failures as the settings say. -/
def new (variant : Variant) : Command :=
  { variant := variant, rethrow := env.settings.exchange.rethrowFailures }

/-- What can be set on a command. -/
inductive Setting where
  | role (role : Role)
  | scope (scope : Scope)
  | exchange (exchange : Exchange)
  | handler (handler : HandlerName)
  | rethrow (rethrow : Bool)
  deriving DecidableEq

/-- The command with the setting. -/
def set (c : Command) : Setting → Command
  | .role role => { c with role := some role }
  | .scope scope => { c with scope := some scope }
  | .exchange exchange => { c with exchange := some exchange }
  | .handler handler => { c with handler := some handler }
  | .rethrow rethrow => { c with rethrow := rethrow }

/-! ## The leg of a command -/

/-- The leg that a variant, a role and a scope select. A request that nobody takes is not
worked on. -/
def work (variant : Variant) : Role → Scope → Work σ Unit
  | .sender, .request => Work.outgoingRequest env variant
  | .sender, .response => Work.incomingResponse env variant
  | .receiver, .request => do
      match ← Work.resolveHandler with
      | some _ => Work.incomingRequest env variant
      | none => Work.fail (Work.noHandler (← Work.exchange))
  | .receiver, .response => Work.outgoingResponse env variant

/-- See to it that the leg ends with a terminal notification. -/
def close (result : Except BusError Unit) : Work σ Unit := do
  match result with
  | .ok () => if (← Work.leg).closed then pure () else Work.notify env .finished
  | .error e => do
      Work.recordFailure e
      if (← Work.leg).closed then pure () else Work.notifyFailure env e

/-- What becomes of the result of a leg that began with the role `role`: a failed request is
refused instead of failing, a failed response fails, and for the rest `rethrow` decides. -/
def conclude (rethrow : Bool) (role : Role) : Except BusError Unit → Work σ Unit
  | .ok () => pure ()
  | .error e => do
      match role, (← Work.leg).scope with
      | .receiver, .request => Work.refuse env e
      | .sender, .response => Work.fail e
      | _, _ => if rethrow then Work.fail e else pure ()

/-! ## Execution -/

/-- The exchange with the role and the scope it is to be worked on in, or what is missing. -/
def ready (c : Command) : Except BusError (Role × Scope × Exchange) :=
  if c.executed then .error (.configuration "Command has already been executed")
  else
    match c.role, c.scope, c.exchange with
    | none, _, _ => .error (.configuration "Command role has not been set")
    | some _, none, _ => .error (.configuration "Command scope has not been set")
    | some _, some _, none => .error (.configuration "Command has no exchange")
    | some role, some scope, some exchange => .ok (role, scope, exchange)

/-- The leg as it stands when the execution of a command begins. Nothing has failed by then, since a
command is executed once. -/
def begin (c : Command) (role : Role) (scope : Scope) (exchange : Exchange) (bus : Bus σ)
    (supply : Supply) : Leg σ :=
  { role := role, scope := scope, exchange := exchange, handler := c.handler, bus := bus
    supply := supply }

/-- The command as a leg leaves it. -/
def afterLeg (c : Command) (l : Leg σ) (began ended : Timestamp) : Command :=
  { c with
    scope := some l.scope
    exchange := some l.exchange
    handler := l.handler
    executed := true
    failed := l.failed
    failure := l.failure
    began := some began
    ended := some ended }

/-- Execute a command. -/
def execute (c : Command) (bus : Bus σ) (supply : Supply) : Execution σ Unit :=
  match c.ready with
  | .error e => { result := .error e, command := c, bus := bus, supply := supply }
  | .ok (role, scope, exchange) =>
      let (began, supply) := supply.now
      let (result, l) := work env c.variant role scope (c.begin role scope exchange bus supply)
      let (ended, supply) := l.supply.now
      let (_, l) := close env result { l with supply := supply }
      let (returned, l) := conclude env c.rethrow role result l
      { result := returned
        command := c.afterLeg l began ended
        bus := l.bus
        supply := l.supply
        trace := l.trace }

/-- What a caller that waits gets from an executed command: the failure, or else what the
exchange holds for it. -/
def payload (c : Command) : Except BusError Message :=
  match c.failure with
  | some e => .error e
  | none =>
      match c.exchange with
      | none => .error (.configuration "Command has no exchange")
      | some e => e.payload

/-- Execute a command and return the payload of the response. -/
def callBlocking (c : Command) (bus : Bus σ) (supply : Supply) : Execution σ Message :=
  let x := execute env c bus supply
  { x with
    result :=
      match x.result with
      | .error e => .error e
      | .ok () => x.command.payload }

end Command

end ServiceBus
