import ServiceBus.Leg.Basic

set_option autoImplicit false

/-! # What is done on a leg

The steps that the legs are made of. Each asks one of the parties, or combines such questions:
consulting the policy, telling the transport how the leg ended, notifying, finding the
participant's handler and delivering to it, and sending. -/

namespace ServiceBus.Work

variable {σ : Type} (env : Environment σ)

/-! ## Notifications -/

/-- Notify monitoring about the leg. -/
def notifyOf (kind : NotificationKind) (state : LifecycleState) (reason : Option String) :
    Work σ Unit := do
  let time ← now
  let l ← leg
  let event := Event.ofExchange l.exchange l.role l.scope kind state reason time
  ask (fun s => ((), env.parties.notify event s)) fun _ => .notify event
  change fun l => { l with closed := l.closed || state.isTerminal }

/-- Notify monitoring that the leg has reached a stage. -/
def notify (state : LifecycleState) : Work σ Unit := notifyOf env .exchange state none

/-- Notify monitoring that the leg was aborted by a failure. -/
def notifyFailure (e : BusError) : Work σ Unit :=
  notifyOf env .exchange e.lifecycleState (some e.reason)

/-! ## The policy -/

/-- Have the policy judge the leg. The exchange is then as the policy leaves it. -/
def applyPolicy : Work σ Unit := do
  let l ← leg
  let ruling ← ask (env.parties.enforce l.exchange l.role l.exchange.context.agreedPolicy l.scope)
    fun ruling => .policy l.exchange l.role l.scope ruling
  change fun l => { l with exchange := ruling.exchange }
  check (ruling.violation.map BusError.ofViolation)

/-! ## The end of the leg -/

/-- Tell the transport how the leg has ended, unless it knows already that the leg is over. A
failure to tell it changes nothing. -/
def signal (question : Exchange → σ → Option BusError × σ)
    (call : Exchange → Option BusError → Call) : Work σ Unit := do
  let l ← leg
  if l.signalled then pure ()
  else do
    change fun l => { l with signalled := true }
    let _ ← ask (question l.exchange) (call l.exchange)
    pure ()

/-- Tell the transport that the leg has succeeded. -/
def acknowledge : Work σ Unit :=
  signal env.parties.acknowledge fun e failure => .acknowledge e failure

/-- Tell the transport that the leg has failed. -/
def refuse (cause : BusError) : Work σ Unit :=
  signal (fun e => env.parties.refuse e cause) fun e failure => .refuse e cause failure

/-- Have the command report a failure. -/
def recordFailure (e : BusError) : Work σ Unit := change fun l => l.failing e

/-! ## The participant -/

/-- The participant's handler: the one known already, or the one found in the cache. -/
def resolveHandler : Work σ (Option HandlerName) := do
  let l ← leg
  match l.handler with
  | some handler => pure (some handler)
  | none =>
      let key : HandlerKey := ⟨l.role, l.exchange.serviceId, l.exchange.operation⟩
      let found := HandlerCache.resolve l.bus.cache l.bus.registry key
      change fun l => { l with handler := found.1, bus := { l.bus with cache := found.2 } }
      pure found.1

/-- The failure of an exchange that nobody takes. -/
def noHandler (e : Exchange) : BusError :=
  .messageNotAccepted e.serviceId e.operation "no message handler registered"

/-- The participant's handler, without which the work fails. -/
def requireHandler : Work σ HandlerName := do
  match ← resolveHandler with
  | some handler => pure handler
  | none => fail (noHandler (← exchange))

/-- The failure of a leg whose exchange carries no message for it. -/
def noMessage (e : Exchange) (scope : Scope) : BusError :=
  .infrastructure ("Exchange " ++ e.id.text ++ " carries no message for the " ++ word scope ++
    " leg")

/-- The message that the leg brings in. -/
def inboundMessage : Work σ Message := do
  let l ← leg
  match l.exchange.inbound l.scope with
  | some message => pure message
  | none => fail (noMessage l.exchange l.scope)

/-- The failure of a message with a header that the participant has to understand and does
not. -/
def notUnderstood (e : Exchange) (header : String) : BusError :=
  .messageNotAccepted e.serviceId e.operation
    ("must-understand header '" ++ header ++ "' is not understood")

/-- Hand the handler a message that has come in. -/
def handOver (handler : HandlerName) (incoming : Incoming) : Work σ Unit := do
  notify env .appIn
  let failure ← ask (env.parties.handleMessage handler incoming) fun failure =>
    .handleMessage handler incoming failure
  check (failure.map (BusError.ofHandler incoming.operation))

/-- Deliver a message to the participant, if it understands the headers it has to. -/
def deliverMessage (message : Message) : Work σ Unit := do
  let handler ← requireHandler
  let l ← leg
  match message.notUnderstood? (env.parties.understood handler l.bus.parties) with
  | some header => fail (notUnderstood l.exchange header)
  | none => handOver env handler (l.incoming message)

/-- Deliver a failure to the participant. -/
def deliverError (e : BusError) : Work σ Unit := do
  let handler ← requireHandler
  let l ← leg
  let failure ← ask (env.parties.handleError handler e l.exchange.context) fun failure =>
    .handleError handler e l.exchange.context failure
  check (failure.map (BusError.ofHandler l.exchange.operation))

/-- Deliver a failure to the participant; if that fails, only monitoring is notified. -/
def deliverErrorQuietly (e : BusError) : Work σ Unit := do
  match ← attempt (deliverError env e) with
  | .ok () => pure ()
  | .error secondary => notifyOf env .exchange .abortedApp (some secondary.reason)

/-! ## The transport -/

/-- Hand the exchange to the transport without waiting. -/
def send : Work σ Unit := do
  let e ← exchange
  check (← ask (env.parties.send e) fun failure => .send e failure)

/-- Hand any exchange to the transport, wait for it within the time limit, and return it. -/
def roundTrip (e : Exchange) : Work σ Answer :=
  let limit := env.settings.exchange.callTimeout
  ask (env.parties.sendSync e limit) fun answer => .sendSync e limit answer

/-- Hand the exchange to the transport and wait for it within the time limit. Whether the
transport has marked it as failed is not looked at. -/
def sendSync : Work σ Unit := do
  let answer ← roundTrip env (← exchange)
  change fun l => { l with exchange := answer.exchange }
  check (answer.failure? env.settings.exchange.callTimeout)

/-- Fail if the transport has marked the exchange as failed. -/
def ensureNotError : Work σ Unit := do
  let e ← exchange
  if e.isError then fail (.infrastructure e.failureError.reason) else pure ()

/-! ## The store -/

/-- Keep the exchange for a later leg. -/
def persist : Work σ Unit := do
  let time ← now
  change fun l => { l with bus := { l.bus with store := Store.persist l.bus.store l.exchange time } }

/-- No longer keep the exchange about this message. -/
def release : Work σ Unit :=
  change fun l =>
    { l with bus := { l.bus with store := (Store.release l.bus.store l.exchange.messageId).2 } }

end ServiceBus.Work
