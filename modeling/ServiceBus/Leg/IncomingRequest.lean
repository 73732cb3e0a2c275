import ServiceBus.Leg.Effects
import ServiceBus.Variant

set_option autoImplicit false

/-! # Incoming requests

The leg of a receiver whose participant is invoked. One-way requests are acknowledged before
the participant gets them; requests with a response only after the participant has taken them,
and they are kept for the response in the meantime.

When the participant fails on a request whose sender takes faults, the sender is sent a fault
document, at the address it advertises and by the operation its service takes faults with. -/

namespace ServiceBus.Work

variable {σ : Type} (env : Environment σ)

/-- A request that cannot be taken: the participant learns why, and the leg is acknowledged. -/
def turnAway (failure : BusError) : Work σ Unit := do
  notifyFailure env failure
  deliverErrorQuietly env failure
  acknowledge env
  fail failure

/-- A one-way request. -/
def receiveOneWay : Work σ Unit := do
  if (← exchange).isError then turnAway env (← exchange).failureError
  else do
    notify env .netInPost
    match ← attempt (applyPolicy env) with
    | .error violation => turnAway env violation
    | .ok () => do
        let message ← inboundMessage
        acknowledge env
        deliverMessage env message
        notify env .finished

/-! ## Requests whose sender takes faults -/

/-- Monitoring is notified that a fault could not be sent. -/
def dropFault (reason : String) : Work σ Unit :=
  notifyOf env .fault .abortedApp (some ("fault dropped: " ++ reason))

/-- The exchange that carries the fault for `cause` to the sender of `request`. -/
def faultExchange (request : Exchange) (replyTo : EndpointReference) (operation : String)
    (cause : BusError) : Work σ Exchange := do
  let correlationId := replyTo.correlationId.or request.context.correlationId
  let messageId ← newId
  let created ← now
  let related ← now
  let id ← newId
  let context : CallContext :=
    { messageId := messageId
      createdAt := created
      correlationId := correlationId
      faultCorrelationId := replyTo.faultCorrelationId.or correlationId
      agreedPolicy := request.context.agreedPolicy
      referenceParameters := replyTo.referenceParameters }
  pure
    { id := id
      pattern := .oneWay
      serviceId := replyTo.serviceId
      operation := operation
      target := some replyTo.address
      context := context.relate request.messageId .fault related
      input := some { body := cause.toFault.render } }

/-- Hand an exchange with a fault to the transport, which is to take it to `address`. -/
def postFault (address : String) (fault : Exchange) : Work σ Unit := do
  let answer ← roundTrip env fault
  check (answer.failure? env.settings.exchange.callTimeout)
  if answer.exchange.isError then
    fail (.infrastructure
      ("Fault delivery to " ++ address ++ " failed: " ++ answer.exchange.failureError.reason))
  else notifyOf env .fault .netOutPost none

/-- Send a fault for `cause` to the sender, or drop it when the sender takes none. -/
def sendFault (cause : BusError) : Work σ Unit := do
  let request ← exchange
  match request.context.replyTo with
  | none => dropFault env "sender advertised no reply-to endpoint"
  | some replyTo =>
      match env.directory.faultOperation? replyTo.serviceId with
      | none =>
          dropFault env ("service " ++ replyTo.serviceId ++ " has no default fault operation")
      | some operation =>
          postFault env replyTo.address (← faultExchange request replyTo operation cause)

/-- Deliver a request whose sender takes faults. A failure to send the fault changes nothing. -/
def deliverOrSendFault : Work σ Unit := do
  let message ← inboundMessage
  match ← attempt (deliverMessage env message) with
  | .ok () => notify env .finished
  | .error failure => do
      let _ ← attempt (sendFault env failure)
      notifyFailure env failure
      fail failure

/-- A request whose sender takes faults. -/
def receiveCallback : Work σ Unit := do
  if (← exchange).isError then turnAway env (← exchange).failureError
  else do
    notify env .netInPost
    match ← attempt (applyPolicy env) with
    | .error violation => turnAway env violation
    | .ok () => do
        acknowledge env
        deliverOrSendFault env

/-! ## Requests with a response -/

/-- The cause with which a request is refused that the policy rejects: the rejection, unless
the participant fails to learn of it. -/
def refusalCause (violation : BusError) : Except BusError Unit → BusError
  | .ok () => violation
  | .error _ => .infrastructure "Request could not be processed by the provider"

/-- A request with a response. -/
def receiveRequest : Work σ Unit := do
  if (← exchange).isError then turnAway env (← exchange).failureError
  else do
    persist
    notify env .netInPost
    match ← attempt (applyPolicy env) with
    | .error violation => do
        notifyFailure env violation
        let told ← attempt (deliverError env violation)
        release
        refuse env (refusalCause violation told)
        fail violation
    | .ok () => do
        let message ← inboundMessage
        match ← attempt (deliverMessage env message) with
        | .error failure => do
            release
            fail failure
        | .ok () => do
            acknowledge env
            notify env .finished

/-- The leg of a receiver that is asked something. -/
def incomingRequest : Variant → Work σ Unit
  | .oneWay => receiveOneWay env
  | .callback => receiveCallback env
  | .requestResponse _ => receiveRequest env

end ServiceBus.Work
