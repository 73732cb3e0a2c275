import ServiceBus.Proofs.Fault.Document
import ServiceBus.Proofs.Leg.Outcome
import ServiceBus.Proofs.Leg.Signals
import ServiceBus.Proofs.Leg.Reception

set_option autoImplicit false

/-! # Faults on the way back to the sender

An exchange with a fault has the document in its input slot and nothing else in it
(`CarriesFault`). A participant that fails on a request has one such exchange sent
(`sendSync_of_deliverOrSendFault`); a sender that gets it on a response leg reads the document
and tells its participant (`told_of_fault`). -/

namespace ServiceBus

/-- The exchange carries the fault for `cause`, and nothing beside it. -/
structure CarriesFault (cause : BusError) (e : Exchange) : Prop where
  active : e.isError = false
  input : e.input = some { body := cause.toFault.render }
  response : e.response = none

namespace CarriesFault

variable {cause : BusError} {e : Exchange} (h : CarriesFault cause e)

include h

theorem inbound : e.inbound .response = some { body := cause.toFault.render } := by
  simp [Exchange.inbound, h.response, h.input]

theorem answered : e.answered = true := by
  simp [Exchange.answered, h.inbound]

end CarriesFault

/-- The exchange is the one made, with the next identifiers of the supply, to take the fault for
`cause` to the address that the sender of the request wants to be replied at. -/
structure FaultFor (request : Exchange) (replyTo : EndpointReference) (operation : String)
    (cause : BusError) (supply : Supply) (e : Exchange) : Prop where
  messageId : e.messageId = supply.nextId.1
  id : e.id = supply.nextId.2.nextId.1
  pattern : e.pattern = .oneWay
  status : e.status = .active
  target : e.target = some replyTo.address
  serviceId : e.serviceId = replyTo.serviceId
  operation : e.operation = operation
  input : e.input = some { body := cause.toFault.render }
  output : e.output = none
  fault : e.fault = none
  failure : e.failure = none
  correlationId :
    e.context.correlationId = replyTo.correlationId.or request.context.correlationId
  faultCorrelationId :
    e.context.faultCorrelationId = replyTo.faultCorrelationId.or e.context.correlationId
  agreedPolicy : e.context.agreedPolicy = request.context.agreedPolicy
  referenceParameters : e.context.referenceParameters = replyTo.referenceParameters
  replyTo : e.context.replyTo = none
  /-- It is related to the request, and to nothing else. -/
  relations : ∃ time, e.context.relations = [⟨request.messageId, .fault, time⟩]

/-- The exchange made for a fault carries it. -/
theorem FaultFor.carries {request : Exchange} {replyTo : EndpointReference} {operation : String}
    {cause : BusError} {supply : Supply} {e : Exchange}
    (h : FaultFor request replyTo operation cause supply e) : CarriesFault cause e where
  active := by
    rw [Exchange.isError, h.status]
    rfl
  input := h.input
  response := by simp [Exchange.response, h.output, h.fault]

namespace Work

variable {σ : Type} (env : Environment σ) {l : Leg σ}

/-! ## Sending the fault -/

theorem faultExchange_fst (request : Exchange) (replyTo : EndpointReference) (operation : String)
    (cause : BusError) (l : Leg σ) :
    ∃ e, (faultExchange request replyTo operation cause l).1 = .ok e ∧
      FaultFor request replyTo operation cause l.supply e :=
  ⟨_, rfl, rfl, rfl, rfl, rfl, rfl, rfl, rfl, rfl, rfl, rfl, rfl, rfl, rfl, rfl, rfl, rfl, _, rfl⟩

/-- A fault is handed over once, whatever comes of it. -/
theorem callsOf_postFault {kinds : List CallKind} (hk : .sendSync ∈ kinds) (hn : .notify ∉ kinds)
    (address : String) (fault : Exchange) (l : Leg σ) :
    ∃ answer, callsOf kinds (postFault env address fault l).2.trace = callsOf kinds l.trace ++
      [.sendSync fault env.settings.exchange.callTimeout answer] := by
  have hrest : ∀ answer : Answer, Does noticeActs (do
      check (answer.failure? env.settings.exchange.callTimeout)
      if answer.exchange.isError then
        Work.fail (.infrastructure
          ("Fault delivery to " ++ address ++ " failed: " ++ answer.exchange.failureError.reason))
      else notifyOf env .fault .netOutPost none) := by
    intro answer
    refine (Does.check _).bind fun _ => ?_
    split
    · exact .fail _
    · exact does_notifyOf env _ _ _
  have hquiet : ∀ kind ∈ kinds, .call kind ∉ noticeActs := by
    intro kind hkind hact
    have hnotify : kind = .notify := by simpa [noticeActs] using hact
    exact hn (hnotify ▸ hkind)
  refine ⟨(env.parties.sendSync fault env.settings.exchange.callTimeout l.bus.parties).1, ?_⟩
  refine (bind_frame (fun m => callsOf kinds m.trace)
    (fun answer m => (hrest answer m).callsOf hquiet) l).trans ?_
  exact callsOf_concat_of_mem hk _

/-- A sender that takes faults is sent one exchange, which is made for the fault. -/
theorem callsOf_sendFault {kinds : List CallKind} (hk : .sendSync ∈ kinds) (hn : .notify ∉ kinds)
    {replyTo : EndpointReference} {operation : String}
    (hr : l.exchange.context.replyTo = some replyTo)
    (ho : env.directory.faultOperation? replyTo.serviceId = some operation) (cause : BusError) :
    ∃ fault answer, FaultFor l.exchange replyTo operation cause l.supply fault ∧
      callsOf kinds (sendFault env cause l).2.trace = callsOf kinds l.trace ++
        [.sendSync fault env.settings.exchange.callTimeout answer] := by
  obtain ⟨fault, hfault, hfor⟩ := faultExchange_fst l.exchange replyTo operation cause l
  have hmade := does_faultExchange l.exchange replyTo operation cause l
  obtain ⟨answer, hcalls⟩ := callsOf_postFault env hk hn replyTo.address fault
    (faultExchange l.exchange replyTo operation cause l).2
  refine ⟨fault, answer, hfor, ?_⟩
  have hx : sendFault env cause l =
      (faultExchange l.exchange replyTo operation cause >>= postFault env replyTo.address) l := by
    rw [sendFault, bind_exchange]
    simp only [hr, ho]
  rw [hx, bind_of_ok hfault, hcalls, hmade.callsOf (by simp)]

/-- A sender that takes no faults is sent none. -/
theorem sendFault_of_none
    (h : l.exchange.context.replyTo = none ∨ ∃ replyTo, l.exchange.context.replyTo = some replyTo ∧
      env.directory.faultOperation? replyTo.serviceId = none) (cause : BusError) :
    ∃ reason, sendFault env cause l = dropFault env reason l := by
  rw [sendFault, bind_exchange]
  rcases h with hr | ⟨replyTo, hr, ho⟩
  · rw [hr]
    exact ⟨_, rfl⟩
  · rw [hr]
    dsimp only
    rw [ho]
    exact ⟨_, rfl⟩

/-- A delivery that fails has the fault seen to, and the leg aborted, before it fails. -/
theorem deliverOrSendFault_of_error {cause : BusError} {message : Message}
    (hi : l.exchange.inbound l.scope = some message)
    (hfail : (deliverMessage env message l).1 = .error cause) :
    deliverOrSendFault env l = (.error cause,
      (notifyFailure env cause (sendFault env cause (deliverMessage env message l).2).2).2) := by
  rw [deliverOrSendFault, bind_inboundMessage_of_some hi, bind_attempt, hfail]
  rfl

/-- A participant that fails on a request has a fault sent with its failure as the cause. -/
theorem sendSync_of_deliverOrSendFault {cause : BusError} {message : Message}
    {replyTo : EndpointReference} {operation : String}
    (hi : l.exchange.inbound l.scope = some message)
    (hr : l.exchange.context.replyTo = some replyTo)
    (ho : env.directory.faultOperation? replyTo.serviceId = some operation)
    (hfail : (deliverMessage env message l).1 = .error cause) :
    ∃ fault limit answer, CarriesFault cause fault ∧
      callsOf [.sendSync] (deliverOrSendFault env l).2.trace =
        callsOf [.sendSync] l.trace ++ [.sendSync fault limit answer] := by
  have hd := does_deliverMessage env message l
  have hn := does_notifyFailure env cause (sendFault env cause (deliverMessage env message l).2).2
  have hsync : .sendSync ∈ [CallKind.sendSync] := List.mem_cons_self
  obtain ⟨fault, answer, hfor, hcalls⟩ := callsOf_sendFault env hsync (by decide)
    (l := (deliverMessage env message l).2) (by rw [hd.exchange (by decide), hr]) ho cause
  rw [hd.callsOf (by decide)] at hcalls
  refine ⟨fault, env.settings.exchange.callTimeout, answer, hfor.carries, ?_⟩
  rw [deliverOrSendFault_of_error env hi hfail, hn.callsOf (by decide), hcalls]

/-- A callback request that the policy accepts is delivered as the policy has left it. -/
theorem incomingCallback_of_accepted (he : l.exchange.isError = false)
    (hl : callsOf [.policy] l.trace = []) {e e' : Exchange} {role : Role} {scope : Scope}
    (hp : .policy e role scope ⟨e', none⟩ ∈
      callsOf [.policy] (incomingRequest env .callback l).2.trace) :
    (l.atDelivery env .callback).exchange = e' ∧
      incomingRequest env .callback l = deliverOrSendFault env (l.atDelivery env .callback) := by
  have hruling : l.rulingOnArrival env .callback = ⟨e', none⟩ := by
    rw [policies_of_active env .callback he, hl, List.nil_append, List.mem_singleton] at hp
    exact (Call.policy.inj hp).2.2.2.symm
  refine ⟨?_, ?_⟩
  · rw [exchange_atDelivery, hruling]
  · rw [incomingRequest_of_active env .callback he, hruling]
    exact bind_of_ok (acknowledge_fst env _) _

/-! ## Taking the fault -/

/-- The participant that takes an answer is told the failure which its message reports. -/
theorem callbacks_takeAnswer {handler : HandlerName} (hh : l.participant? = some handler)
    {message : Message} {remote : BusError} (hf : BusError.ofFault? message.body = some remote) :
    ∃ failure, callsOf callbackKinds (takeAnswer env message l).2.trace =
      callsOf callbackKinds l.trace ++
        [.handleError handler remote l.exchange.context failure] := by
  have hn := does_notify env .netInPost l
  have hack := does_acknowledge env (notify env .netInPost l).2
  have hrest : ∀ _ : Unit, Does (.record :: noticeActs) (do
      recordFailure remote
      notify env .finished) := fun _ =>
    ((does_recordFailure remote).mono (by decide)).bind fun _ =>
      (does_notify env .finished).mono (by decide)
  have hx : takeAnswer env message l =
      (deliverError env remote >>= fun _ => recordFailure remote >>= fun _ => notify env .finished)
        (acknowledge env (notify env .netInPost l).2).2 := by
    rw [takeAnswer, bind_of_ok (notify_fst env l _), bind_of_ok (acknowledge_fst env _), hf]
  obtain ⟨failure, -, hcalls⟩ := deliverError_of_some env
    ((hack.participant? (by decide)).trans ((hn.participant? (by decide)).trans hh)) remote
  rw [hack.callsOf (by decide), hn.callsOf (by decide), hack.exchange (by decide),
    hn.exchange (by decide)] at hcalls
  refine ⟨failure, ?_⟩
  rw [hx, ← hcalls]
  exact bind_frame (fun m => callsOf callbackKinds m.trace)
    (fun a m => (hrest a m).callsOf (by decide)) _

section Fault

variable {cause : BusError} (hc : CarriesFault cause l.exchange) (hscope : l.scope = .response)

include hc hscope

/-- An answer that carries a fault is taken as its document. -/
theorem takeFault_of_fault :
    takeFault env l = takeAnswer env { body := cause.toFault.render } l :=
  openAnswer_of_some _ _ hc.active (by rw [hscope, hc.inbound])

/-- A response that carries a fault is taken as the report of the failure that the document
describes, without asking the policy. -/
theorem takeResponse_of_fault (sync : Bool) :
    takeResponse env sync l =
      concludeResponse env sync (some (.remote cause.faultKind cause.reason))
        { body := cause.toFault.render } (letGo sync l).2 :=
  takeResponse_of_report env hc.active (by rw [hscope, hc.inbound]) (BusError.ofFault?_render cause)

/-- An answer that carries a fault stays as it is. -/
theorem exchange_of_fault (variant : Variant) :
    (incomingResponse env variant l).2.exchange = l.exchange := by
  have hfault : (takeFault env l).2.exchange = l.exchange :=
    (does_takeFault env l).exchange (by decide)
  cases variant with
  | oneWay => exact hfault
  | callback => exact hfault
  | requestResponse sync =>
      show (takeResponse env sync l).2.exchange = _
      rw [takeResponse_of_fault env hc hscope,
        (does_concludeResponse env sync _ _ _).exchange (by decide),
        (does_letGo sync l).exchange (by decide)]

/-- The participant that nobody waits beside is told the failure which the fault describes, and
nothing else. -/
theorem told_of_fault {variant : Variant} (hvariant : variant ≠ .requestResponse true)
    {handler : HandlerName} (hh : l.participant? = some handler) :
    ∃ failure, callsOf callbackKinds (incomingResponse env variant l).2.trace =
      callsOf callbackKinds l.trace ++ [.handleError handler
        (.remote cause.faultKind cause.reason) l.exchange.context failure] := by
  have hfault : ∃ failure, callsOf callbackKinds (takeFault env l).2.trace =
      callsOf callbackKinds l.trace ++ [.handleError handler
        (.remote cause.faultKind cause.reason) l.exchange.context failure] := by
    rw [takeFault_of_fault env hc hscope]
    exact callbacks_takeAnswer env hh (BusError.ofFault?_render cause)
  cases variant with
  | oneWay => exact hfault
  | callback => exact hfault
  | requestResponse sync =>
      cases sync with
      | true => exact absurd rfl hvariant
      | false =>
          have hgo := does_letGo false l
          obtain ⟨failure, -, hcalls⟩ := deliverError_of_some env
            ((hgo.participant? (by decide)).trans hh) (.remote cause.faultKind cause.reason)
          rw [hgo.callsOf (by decide), hgo.exchange (by decide)] at hcalls
          refine ⟨failure, ?_⟩
          show callsOf callbackKinds (takeResponse env false l).2.trace = _
          rw [takeResponse_of_fault env hc hscope, callbacks_concludeResponse]
          exact hcalls

end Fault

end Work

end ServiceBus
