import ServiceBus.Leg.IncomingResponse

set_option autoImplicit false

/-! # Outgoing requests and responses

The legs that begin with the local participant. What leaves has been judged by the policy, apart
from a response that is marked as failed. A request whose response comes later is kept for it;
a request whose caller waits goes on with the response at once. -/

namespace ServiceBus.Work

variable {σ : Type} (env : Environment σ)

/-- A one-way request. Monitoring is notified of a failure and, in any case, that the leg is
finished. -/
def sendOneWay : Work σ Unit := do
  applyPolicy env
  match ← attempt (do sendSync env; ensureNotError) with
  | .ok () => do
      notify env .netOutPost
      notify env .finished
  | .error e => do
      notifyFailure env e
      notify env .finished
      fail e

/-- A request whose response comes later. It is not kept if the transport does not take it. -/
def sendRequest : Work σ Unit := do
  applyPolicy env
  persist
  match ← attempt (send env) with
  | .error e => do
      release
      fail e
  | .ok () => do
      notify env .netOutPost
      notify env .finished

/-- A request whose caller waits for the response. -/
def callAndWait : Work σ Unit := do
  applyPolicy env
  sendSync env
  notify env .netOutPost
  change fun l => { l with scope := .response }
  takeResponse env true

/-- The leg of a sender that asks something. -/
def outgoingRequest : Variant → Work σ Unit
  | .oneWay | .callback => sendOneWay env
  | .requestResponse false => sendRequest env
  | .requestResponse true => callAndWait env

/-- A response. -/
def sendResponse : Work σ Unit := do
  if (← exchange).isError then pure () else applyPolicy env
  sendSync env
  ensureNotError
  notify env .netOutPost
  notify env .finished

/-- The leg of a receiver that answers. -/
def outgoingResponse : Variant → Work σ Unit
  | .oneWay | .callback => sendResponse env
  | .requestResponse _ => do
      release
      sendResponse env

end ServiceBus.Work
