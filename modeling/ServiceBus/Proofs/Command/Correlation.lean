import ServiceBus.Proofs.Command.Undelivered

set_option autoImplicit false

/-! # How faults are correlated

A fault is correlated with the request it is sent for by an identifier, and four are at hand: the
address that is replied at and the context of the request have a regular one each, and may have
another one for faults. The identifiers of the address come first. Where it has none, the fault is
due to carry what the context has for its faults (`CallContext.dueFaultCorrelationId`), but it
carries the regular identifier of the context, also where the context has another one for faults
(`Correlated`). So are all exchanges correlated that a callback request has sent
(`faults_correlated`). -/

namespace ServiceBus

/-- The correlation identifier that faults carry when they are sent to the address. -/
def EndpointReference.effectiveFaultCorrelationId (r : EndpointReference) : Option String :=
  r.faultCorrelationId.or r.correlationId

/-- The correlation identifier that is due to a fault for the context: the one of the address it
is sent to, or else the one that the context has for faults. -/
def CallContext.dueFaultCorrelationId (c : CallContext) (replyTo : EndpointReference) :
    Option String :=
  replyTo.effectiveFaultCorrelationId.or c.effectiveFaultCorrelationId

/-- The correlation identifier of a fault that is sent to an address for a request with the given
context. -/
structure Correlated (request : CallContext) (replyTo : EndpointReference) (fault : Exchange) :
    Prop where
  advertised : ∀ id, replyTo.effectiveFaultCorrelationId = some id →
    fault.context.faultCorrelationId = some id
  regular : replyTo.effectiveFaultCorrelationId = none →
    fault.context.faultCorrelationId = request.correlationId
  /-- The identifier is the one that is due, unless the address has none and the context has
  another one for faults than for answers. -/
  due_iff : fault.context.faultCorrelationId = request.dueFaultCorrelationId replyTo ↔
    replyTo.effectiveFaultCorrelationId ≠ none ∨ request.faultCorrelationId = none ∨
      request.faultCorrelationId = request.correlationId

variable {σ : Type}

/-- An exchange that is made for a fault is correlated. -/
theorem FaultFor.correlated {request : Exchange} {replyTo : EndpointReference} {operation : String}
    {cause : BusError} {supply : Supply} {fault : Exchange}
    (h : FaultFor request replyTo operation cause supply fault) :
    Correlated request.context replyTo fault := by
  have hid : fault.context.faultCorrelationId =
      replyTo.effectiveFaultCorrelationId.or request.context.correlationId := by
    rw [h.faultCorrelationId, h.correlationId, ← Option.or_assoc]
    rfl
  refine ⟨fun id hr => ?_, fun hr => ?_, ?_⟩
  · rw [hid, hr, Option.some_or]
  · rw [hid, hr, Option.none_or]
  · rw [hid, CallContext.dueFaultCorrelationId]
    cases hr : replyTo.effectiveFaultCorrelationId with
    | some id => simp
    | none =>
        rw [Option.none_or, Option.none_or, CallContext.effectiveFaultCorrelationId]
        cases request.context.faultCorrelationId with
        | some id => simp [eq_comm]
        | none => simp

/-! ## Legs -/

/-- Everything that has been handed to the transport on the leg is a fault for its exchange, and
correlated. -/
def Leg.FaultsCorrelated (l : Leg σ) : Prop :=
  ∀ call ∈ callsOf [.send, .sendSync] l.trace, ∃ replyTo fault limit answer,
    l.exchange.context.replyTo = some replyTo ∧ call = .sendSync fault limit answer ∧
      Correlated l.exchange.context replyTo fault

namespace Leg

variable {l l' : Leg σ}

theorem faultsCorrelated_of_nil (h : callsOf [.send, .sendSync] l.trace = []) :
    l.FaultsCorrelated := by
  intro call hcall
  rw [h] at hcall
  cases hcall

/-- Steps that hand nothing over and leave the exchange make no difference. -/
theorem Steps.faultsCorrelated {acts : List Act} (h : Steps acts l l')
    (hcalls : ∀ kind ∈ [CallKind.send, .sendSync], .call kind ∉ acts) (hx : .replace ∉ acts)
    (hl : l.FaultsCorrelated) : l'.FaultsCorrelated := by
  rw [FaultsCorrelated, h.callsOf hcalls, h.exchange hx]
  exact hl

/-- Steps that hand nothing over leave a leg on which nothing has been. -/
theorem faultsCorrelated_of_steps {acts : List Act} (h : Steps acts l l')
    (hcalls : ∀ kind ∈ [CallKind.send, .sendSync], .call kind ∉ acts)
    (hl : callsOf [.send, .sendSync] l.trace = []) : l'.FaultsCorrelated :=
  faultsCorrelated_of_nil ((h.callsOf hcalls).trans hl)

end Leg

namespace Work

variable (env : Environment σ) {l : Leg σ} (h : callsOf [.send, .sendSync] l.trace = [])

include h

theorem faultsCorrelated_sendFault (cause : BusError) :
    (sendFault env cause l).2.FaultsCorrelated := by
  have hs := does_sendFault env cause l
  -- a sender without an address, or without an operation for faults, is sent nothing
  have hdropped : (l.exchange.context.replyTo = none ∨ ∃ replyTo,
      l.exchange.context.replyTo = some replyTo ∧
        env.directory.faultOperation? replyTo.serviceId = none) →
      (sendFault env cause l).2.FaultsCorrelated := by
    intro hnone
    obtain ⟨reason, hx⟩ := sendFault_of_none env hnone cause
    have hdrop : Leg.Steps noticeActs l (dropFault env reason l).2 := does_notifyOf env _ _ _ l
    rw [hx]
    exact Leg.faultsCorrelated_of_steps hdrop (by decide) h
  cases hr : l.exchange.context.replyTo with
  | none => exact hdropped (.inl hr)
  | some replyTo =>
      cases ho : env.directory.faultOperation? replyTo.serviceId with
      | none => exact hdropped (.inr ⟨replyTo, hr, ho⟩)
      | some operation =>
          have hkind : .sendSync ∈ [CallKind.send, .sendSync] := by decide
          obtain ⟨fault, answer, hfor, hcalls⟩ :=
            callsOf_sendFault env hkind (by decide) hr ho cause
          intro call hcall
          rw [hcalls, h, List.nil_append, List.mem_singleton] at hcall
          rw [hs.exchange (by decide)]
          exact ⟨replyTo, fault, _, answer, hr, hcall, hfor.correlated⟩

theorem faultsCorrelated_deliverOrSendFault :
    (deliverOrSendFault env l).2.FaultsCorrelated := by
  cases hi : l.exchange.inbound l.scope with
  | none =>
      rw [deliverOrSendFault, bind_inboundMessage_of_none hi]
      exact Leg.faultsCorrelated_of_nil h
  | some message =>
      have hd := does_deliverMessage env message l
      have hcalls : callsOf [.send, .sendSync] (deliverMessage env message l).2.trace = [] :=
        (hd.callsOf (by decide)).trans h
      cases hresult : (deliverMessage env message l).1 with
      | error cause =>
          -- the fault is the last thing that is handed over
          rw [deliverOrSendFault_of_error env hi hresult]
          exact (does_notifyFailure env cause _).faultsCorrelated (by decide) (by decide)
            (faultsCorrelated_sendFault env hcalls cause)
      | ok _ =>
          rw [deliverOrSendFault, bind_inboundMessage_of_some hi, bind_attempt, hresult]
          exact Leg.faultsCorrelated_of_steps (does_notify env .finished _) (by decide) hcalls

/-- A callback request hands nothing to the transport before it is delivered, and then a fault at
most. -/
theorem faultsCorrelated_incomingRequest :
    (incomingRequest env .callback l).2.FaultsCorrelated := by
  cases he : l.exchange.isError with
  | true =>
      rw [incomingRequest_of_isError env .callback he]
      exact Leg.faultsCorrelated_of_steps (does_turnAway env _ l) (by decide) h
  | false =>
      have hjudged : callsOf [.send, .sendSync] (l.judged env .callback).trace = [] :=
        ((steps_judged env .callback).callsOf (by decide)).trans h
      rw [incomingRequest_of_active env .callback he]
      cases (l.rulingOnArrival env .callback).violation with
      | some violation =>
          exact Leg.faultsCorrelated_of_steps (does_turnAway env _ _) (by decide) hjudged
      | none =>
          have hack := does_acknowledge env (l.judged env .callback)
          show (acceptRequest env .callback (l.judged env .callback)).2.FaultsCorrelated
          rw [acceptRequest, bind_of_ok (acknowledge_fst env _)]
          exact faultsCorrelated_deliverOrSendFault env ((hack.callsOf (by decide)).trans hjudged)

end Work

namespace Command

open Work

variable (env : Environment σ)

theorem faultsCorrelated_work {l : Leg σ} (h : callsOf [.send, .sendSync] l.trace = []) :
    (work env .callback .receiver .request l).2.FaultsCorrelated := by
  have hfind := does_resolveHandler l
  cases hh : l.participant? with
  | none =>
      rw [work_request_of_none env hh]
      exact Leg.faultsCorrelated_of_steps hfind (by decide) h
  | some handler =>
      rw [work_request_of_some env hh]
      exact faultsCorrelated_incomingRequest env ((hfind.callsOf (by decide)).trans h)

/-- The correlation of faults. Where the sender takes faults, sending one hands over one exchange,
and it is correlated. Everything that the execution of a callback request hands to the transport
is correlated with the request as it stands at the end. -/
theorem faults_correlated :
    (∀ (l : Leg σ) (cause : BusError) (replyTo : EndpointReference) (operation : String),
      l.exchange.context.replyTo = some replyTo →
      env.directory.faultOperation? replyTo.serviceId = some operation →
      ∃ fault answer, Correlated l.exchange.context replyTo fault ∧
        callsOf [.send, .sendSync] (sendFault env cause l).2.trace =
          callsOf [.send, .sendSync] l.trace ++
            [.sendSync fault env.settings.exchange.callTimeout answer]) ∧
    ∀ (c : Command) (e : Exchange) (bus : Bus σ) (supply : Supply),
      c.ready = .ok (.receiver, .request, e) → c.variant = .callback →
      let x := c.execute env bus supply
      ∃ e', x.command.exchange = some e' ∧
        ∀ call ∈ callsOf [.send, .sendSync] x.trace, ∃ replyTo fault limit answer,
          e'.context.replyTo = some replyTo ∧ call = .sendSync fault limit answer ∧
            Correlated e'.context replyTo fault := by
  constructor
  · intro l cause replyTo operation hr ho
    have hkind : .sendSync ∈ [CallKind.send, .sendSync] := by decide
    obtain ⟨fault, answer, hfor, hcalls⟩ := callsOf_sendFault env hkind (by decide) hr ho cause
    exact ⟨fault, answer, hfor.correlated, hcalls⟩
  · intro c e bus supply h hvariant x
    have hcorrelated := faultsCorrelated_work env (l := c.opening .receiver .request e bus supply)
      rfl
    refine ⟨_, execute_exchange env h bus supply, ?_⟩
    rw [callsOf_execute env h bus supply (by decide) (by decide), course_exchange, hvariant]
    exact hcorrelated

section Complaints

open Rehearsal

/-- An order with one identifier for answers and another one for faults, whose sender takes faults
at the given address. -/
def complaintOrder (replyTo : EndpointReference) : Exchange :=
  { bookOrder with
    context :=
      { bookOrder.context with
        correlationId := some "order-7"
        faultCorrelationId := some "complaint-7"
        replyTo := some replyTo } }

/-- The shop asks for faults by another identifier than the order has. -/
def complaintDesk : EndpointReference :=
  { address := "mem://shop", serviceId := "shop", correlationId := some "desk"
    faultCorrelationId := some "desk-complaints" }

/-- The fault about the book that is sold out carries the identifier that the shop asks for, which
is the one that is due. -/
theorem faults_correlated_complaint :
    let order := complaintOrder complaintDesk
    let l := (stocking order).opening .receiver .request order { parties := {} } .counting
    let x := (stocking order).execute bookstore { parties := {} } .counting
    (∃ fault answer, Correlated order.context complaintDesk fault ∧
      callsOf [.send, .sendSync] (sendFault bookstore (.infrastructure "flooded") l).2.trace =
        [.sendSync fault bookstore.settings.exchange.callTimeout answer]) ∧
    ∃ fault limit answer, callsOf [.send, .sendSync] x.trace = [.sendSync fault limit answer] ∧
      fault.context.faultCorrelationId = some "desk-complaints" ∧
      fault.context.faultCorrelationId = order.context.dueFaultCorrelationId complaintDesk := by
  intro order l x
  have hcorrelated := faults_correlated bookstore
  refine ⟨hcorrelated.1 l _ complaintDesk "fault" rfl rfl, ?_⟩
  obtain ⟨e', he, hall⟩ := hcorrelated.2 (stocking order) order { parties := {} } .counting rfl rfl
  obtain ⟨call, hcalls⟩ : ∃ call, callsOf [.send, .sendSync] x.trace = [call] := ⟨_, rfl⟩
  obtain ⟨replyTo, fault, limit, answer, hr, hcall, hfault⟩ :=
    hall call (hcalls ▸ List.mem_singleton_self call)
  have horder : x.command.exchange = some order := rfl
  cases horder.symm.trans he
  cases hr
  have hdue := hfault.due_iff.mpr (.inl (by decide))
  exact ⟨fault, limit, answer, hcall ▸ hcalls, hfault.advertised "desk-complaints" rfl, hdue⟩

/-- Where the address of the shop has no identifier, the fault carries the one that the order has
for answers, although it has another one for faults. -/
theorem complaint_as_order :
    let shop : EndpointReference := { address := "mem://shop", serviceId := "shop" }
    let x := (stocking (complaintOrder shop)).execute bookstore { parties := {} } .counting
    ∃ fault limit answer, callsOf [.send, .sendSync] x.trace = [.sendSync fault limit answer] ∧
      fault.context.faultCorrelationId = some "order-7" ∧
      (complaintOrder shop).context.dueFaultCorrelationId shop = some "complaint-7" :=
  ⟨_, _, _, rfl, rfl, rfl⟩

end Complaints

end Command

end ServiceBus
