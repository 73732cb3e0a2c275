import ServiceBus.Command

set_option autoImplicit false

/-! # The engine

The common interactions with the bus, each of which prepares a command and executes it: calling
an operation and waiting for the response, sending a request without waiting, and taking what
the transport delivers. -/

namespace ServiceBus.Engine

variable {σ : Type} (env : Environment σ)

/-- A new exchange for an operation. -/
def newExchange (o : Operation) (context : CallContext) (message : Message) (supply : Supply) :
    Exchange × Supply :=
  let (id, supply) := supply.nextId
  ({ id := id
     pattern := o.pattern
     serviceId := o.serviceId
     operation := o.name
     context := context
     input := some message }, supply)

/-- A command for the given variant with everything set. -/
def prepare (variant : Variant) (role : Role) (scope : Scope) (e : Exchange) : Command :=
  { Command.new env variant with role := some role, scope := some scope, exchange := some e }

/-- Send a request, wait for the response, and return its payload. -/
def callBlocking (o : Operation) (message : Message) (context : CallContext) (bus : Bus σ)
    (supply : Supply) : Execution σ Message :=
  let (e, supply) := newExchange o context message supply
  Command.callBlocking env (prepare env (Variant.ofOperation o true) .sender .request e) bus supply

/-- Send a request without waiting, and return the identifier a response will correlate with. A
failure is returned whether or not commands are set to do so. -/
def sendOneWay (o : Operation) (message : Message) (context : CallContext) (bus : Bus σ)
    (supply : Supply) : Execution σ Uuid :=
  let (e, supply) := newExchange o context message supply
  let x :=
    Command.execute env (prepare env (Variant.ofOperation o false) .sender .request e) bus supply
  { x with
    result :=
      match x.result, x.command.failure with
      | .error e, _ => .error e
      | .ok (), some e => .error e
      | .ok (), none => .ok context.messageId }

/-- The operation that an exchange is about: as its service describes it, or else as the
exchange itself tells. -/
def operationOf (e : Exchange) : Operation :=
  (((env.directory.describe? e.serviceId).bind fun s => s.operation? e.operation)).getD
    { serviceId := e.serviceId, name := e.operation, pattern := e.pattern }

/-- Take an exchange that the transport delivers through a leg. -/
def dispatchInbound (role : Role) (scope : Scope) (e : Exchange) (bus : Bus σ)
    (supply : Supply) : Execution σ Unit :=
  Command.execute env
    (prepare env (Variant.ofOperation (operationOf env e) false) role scope e) bus supply

/-- The failure of a response that nobody waits for. -/
def notPending (e : Exchange) : BusError :=
  .messageNotAccepted e.serviceId e.operation
    ("no pending request with message id " ++ e.messageId.text)

/-- Take the response to a request that is kept. -/
def completeResponse (e : Exchange) (bus : Bus σ) (supply : Supply) : Execution σ Unit :=
  if bus.store.contains e.messageId then dispatchInbound env .sender .response e bus supply
  else
    { result := .error (notPending e)
      command := prepare env (Variant.ofOperation (operationOf env e) false) .sender .response e
      bus := bus
      supply := supply }

end ServiceBus.Engine
