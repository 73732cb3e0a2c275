import ServiceBus.Context
import ServiceBus.Fault.Document
import ServiceBus.Message

set_option autoImplicit false

/-! # Exchanges

One interaction between a consumer and a provider: its pattern, how it stands, whom it is
addressed to, its context, and the three slots for the request, the response and a fault. A
transport that fails marks the exchange as failed and may say why. -/

namespace ServiceBus

/-- Why a transport has marked an exchange as failed. -/
inductive ExchangeFailure where
  /-- The other side answered with a fault document. -/
  | remoteFault (document : String)
  /-- The transport itself failed. -/
  | transport (reason : String)
  deriving DecidableEq

/-- The failure in terms of the bus. -/
def ExchangeFailure.toError : ExchangeFailure → BusError
  | .remoteFault document => BusError.ofRemote document
  | .transport reason => .infrastructure reason

/-- One interaction between a consumer and a provider. -/
structure Exchange where
  id : Uuid
  pattern : Pattern
  status : Status := .active
  serviceId : String
  operation : String
  /-- The endpoint the exchange is addressed to, when known. -/
  target : Option String := none
  context : CallContext
  input : Option Message := none
  output : Option Message := none
  fault : Option Message := none
  failure : Option ExchangeFailure := none
  deriving DecidableEq

namespace Exchange

/-- The identifier of the message that the exchange is about. -/
def messageId (e : Exchange) : Uuid := e.context.messageId

/-- Whether the transport has marked the exchange as failed. -/
def isError (e : Exchange) : Bool := e.status.isError

/-- The exchange marked as failed. -/
def markError (e : Exchange) (failure : ExchangeFailure) : Exchange :=
  { e with status := .error, failure := some failure }

/-- The failure of an exchange that is marked as failed. -/
def failureError (e : Exchange) : BusError :=
  match e.failure with
  | some failure => failure.toError
  | none =>
      .infrastructure ("Exchange " ++ e.id.text ++ " reported an error status without a cause")

/-- What the exchange answers: the fault if there is one, otherwise the output. -/
def response (e : Exchange) : Option Message := e.fault.or e.output

/-- The message that a leg brings in: of a request the input, of a response its answer or,
without one, the input. -/
def inbound (e : Exchange) : Scope → Option Message
  | .request => e.input
  | .response => e.response.or e.input

/-- The failure of a call that nothing has answered. -/
def noResponse (e : Exchange) : BusError :=
  .infrastructure ("No response received for " ++ e.serviceId ++ "/" ++ e.operation)

/-- What the slots hold for a caller that waits: the fault turned into the failure it describes,
or the output. -/
def payload (e : Exchange) : Except BusError Message :=
  match e.fault, e.output with
  | some fault, _ => .error (BusError.ofRemote fault.body)
  | none, some output => .ok output
  | none, none => .error e.noResponse

end Exchange

end ServiceBus
