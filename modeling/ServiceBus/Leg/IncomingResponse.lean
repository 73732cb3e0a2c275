import ServiceBus.Leg.Effects
import ServiceBus.Variant

set_option autoImplicit false

/-! # Incoming responses

The leg of a sender that gets an answer. A fault goes to the participant's error callback, or to
the caller when the caller waits for the response; anything else is delivered as a message. The
leg is acknowledged whatever the participant does with the answer. -/

namespace ServiceBus.Work

variable {σ : Type} (env : Environment σ)

/-- Go on with the failure of an exchange that is marked as failed, and otherwise with the
message that the leg brings in. -/
def openAnswer (failed : BusError → Work σ Unit) (brought : Message → Work σ Unit) :
    Work σ Unit := do
  if (← exchange).isError then failed (← exchange).failureError
  else brought (← inboundMessage)

/-- An answer, marked as failed, to a request that expected none. -/
def takeFailure (failure : BusError) : Work σ Unit := do
  notifyFailure env failure
  acknowledge env
  deliverErrorQuietly env failure
  recordFailure failure

/-- The message of an answer to a request that expected none, such as a fault. -/
def takeAnswer (message : Message) : Work σ Unit := do
  notify env .netInPost
  acknowledge env
  match BusError.ofFault? message.body with
  | some remote => do
      deliverError env remote
      recordFailure remote
  | none => deliverMessage env message
  notify env .finished

/-- An answer to a request that expected none. -/
def takeFault : Work σ Unit := openAnswer (takeFailure env) (takeAnswer env)

/-- A response that has failed: the caller gets the failure if it waits for the response, and
otherwise the participant's error callback does. -/
def failResponse (sync : Bool) (failure : BusError) : Work σ Unit := do
  notifyFailure env failure
  if sync then do
    acknowledge env
    fail failure
  else do
    deliverErrorQuietly env failure
    acknowledge env
    recordFailure failure

/-- Deliver the failure that a response reports. It is recorded whether the participant takes it
or not. -/
def deliverFailure (e : BusError) : Work σ (Except BusError Unit) := do
  let delivered ← attempt (deliverError env e)
  recordFailure e
  pure delivered

/-- Deliver a response: one that reports a failure, or that came in the fault slot, as an error,
and any other as a message. -/
def deliverResponse (remote : Option BusError) (message : Message) : Work σ (Except BusError Unit) := do
  match remote with
  | some e => deliverFailure env e
  | none => do
      if (← exchange).fault.isSome then deliverFailure env (BusError.ofRemote message.body)
      else attempt (deliverMessage env message)

/-- A response that has come in and has not been rejected. -/
def concludeResponse (sync : Bool) (remote : Option BusError) (message : Message) : Work σ Unit := do
  if sync then do
    acknowledge env
    match remote with
    | some e => do
        notifyFailure env e
        recordFailure e
    | none => notify env .finished
  else do
    let delivered ← deliverResponse env remote message
    acknowledge env
    match delivered with
    | .error e => fail e
    | .ok () => notify env .finished

/-- The message of a response. The policy judges it unless it reports a failure. -/
def takeMessage (sync : Bool) (message : Message) : Work σ Unit := do
  match BusError.ofFault? message.body with
  | some remote => concludeResponse env sync (some remote) message
  | none =>
      match ← attempt (applyPolicy env) with
      | .error violation => failResponse env sync violation
      | .ok () => concludeResponse env sync none message

/-- The exchange is no longer kept when its response has come, unless the caller waited for it:
then it never was. -/
def letGo (sync : Bool) : Work σ Unit := if sync then pure () else release

/-- A response. -/
def takeResponse (sync : Bool) : Work σ Unit := do
  letGo sync
  openAnswer (failResponse env sync) (takeMessage env sync)

/-- The leg of a sender that gets an answer. -/
def incomingResponse : Variant → Work σ Unit
  | .oneWay | .callback => takeFault env
  | .requestResponse sync => takeResponse env sync

end ServiceBus.Work
