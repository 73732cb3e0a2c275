import ServiceBus.Proofs.Command.Reception
import ServiceBus.Proofs.Leg.Faults

set_option autoImplicit false

/-! # Faults from the receiver to the sender

A callback request that the policy has accepted may still not be delivered (`Undelivered`): the
participant does not understand it, or fails on it, and these are the ways in which a delivery fails
(`undelivered_iff`). The command records what the delivery fails with (`failure_of_accepted`) and
sends one exchange with the fault (`sendSync_of_failed_callback`). Whichever command takes this
exchange on the side of the sender, its handler is told the kind and the reason of the participant's
failure, word for word, and the transport gets the acknowledgement (`execute_fault`). -/

namespace ServiceBus.Command

open Work

variable {σ : Type} (env : Environment σ)

/-! ## The side of the receiver -/

section Undelivered

variable (c : Command) (e : Exchange) (bus : Bus σ) (supply : Supply)

/-- An accepted request, which the policy has left as `e'` with the message `message` in it, is not
delivered: its handler is called with it and fails, or does not understand a header that it has
to. -/
inductive Undelivered (e' : Exchange) (message : Message) (callbacks : List Call) :
    BusError → Prop where
  | failed (handler : HandlerName) (incoming : Incoming) (failure : HandlerError)
      (h : callbacks = [.handleMessage handler incoming (some failure)]) :
      Undelivered e' message callbacks (BusError.ofHandler e'.operation failure)
  | notUnderstood (handler : HandlerName) (header : String)
      (hh : c.participant? .receiver e bus = some handler)
      (hu : message.notUnderstood? (c.understoodBy env e bus supply handler) = some header) :
      Undelivered e' message callbacks (Work.notUnderstood e' header)

end Undelivered

variable {c : Command} {e : Exchange} {cause : BusError}

section Accepted

variable (bus : Bus σ) (supply : Supply) {e' : Exchange} {message : Message}
  (h : c.ready = .ok (.receiver, .request, e))
  (hp : .policy e .receiver .request ⟨e', none⟩ ∈
    callsOf [.policy] (c.execute env bus supply).trace)

include h hp

/-- The transport has not marked a request as failed that the policy accepts. -/
theorem active_of_accepted : e.isError = false := by
  cases he : e.isError with
  | false => rfl
  | true =>
      rw [(execute_request_course env bus supply h).policies_of_isError he] at hp
      cases hp

variable (hvariant : c.variant = .callback)

include hvariant

/-- A callback request that the policy accepts is delivered to a participant as the policy has
left it. -/
theorem work_of_accepted :
    ∃ handler, c.participant? .receiver e bus = some handler ∧
      let m := (c.reception e bus supply).atDelivery env .callback
      Leg.Steps (.find :: admissionActs) (c.opening .receiver .request e bus supply) m ∧
        m.exchange = e' ∧ m.participant? = some handler ∧
        work env c.variant .receiver .request (c.opening .receiver .request e bus supply) =
          deliverOrSendFault env m := by
  have he := active_of_accepted env bus supply h hp
  have hparticipant := opening_participant? c .receiver .request e bus supply
  have hfind := does_resolveHandler (c.opening .receiver .request e bus supply)
  rw [callsOf_execute env h bus supply (by decide) (by decide), hvariant] at hp
  rw [hvariant]
  cases hh : c.participant? .receiver e bus with
  | none =>
      -- without a participant the policy is not asked
      rw [work_request_of_none env (hparticipant.trans hh), hfind.callsOf (by decide)] at hp
      cases hp
  | some handler =>
      rw [work_request_of_some env (hparticipant.trans hh), ← reception] at hp ⊢
      have hl := received bus supply hh
      obtain ⟨hme, hx⟩ := incomingCallback_of_accepted env (by rw [hl.exchange, he]) hl.policies hp
      have hm : Leg.Steps admissionActs (c.reception e bus supply) _ :=
        steps_atDelivery env .callback
      -- the policy may name another service, but the handler is known by then
      have hknown := participant?_of_handler hm (by decide) hl.handler
      exact ⟨handler, rfl, (hfind.mono (by decide)).trans (hm.mono (by decide)), hme, hknown, hx⟩

theorem inbound_of_accepted (hi : e'.input = some message) :
    let m := (c.reception e bus supply).atDelivery env .callback
    m.exchange.inbound m.scope = some message := by
  intro m
  obtain ⟨-, -, hm, hme, -, -⟩ := work_of_accepted env bus supply h hp hvariant
  rw [hme, hm.scope (by decide)]
  exact hi

/-- An accepted request is undelivered with a failure exactly if its delivery fails with it. -/
theorem undelivered_iff (hi : e'.input = some message) :
    Undelivered env c e bus supply e' message
        (callsOf callbackKinds (c.execute env bus supply).trace) cause ↔
      (deliverMessage env message ((c.reception e bus supply).atDelivery env .callback)).1 =
        .error cause := by
  obtain ⟨handler, hh, hm, hme, hknown, hx⟩ := work_of_accepted env bus supply h hp hvariant
  have hunderstood : c.understoodBy env e bus supply handler = env.parties.understood handler
      ((c.reception e bus supply).atDelivery env .callback).bus.parties := by
    rw [understoodBy, hvariant]
  have hinbound := inbound_of_accepted env bus supply h hp hvariant hi
  generalize (c.reception e bus supply).atDelivery env .callback = m at *
  have hnone : callsOf callbackKinds m.trace = [] := hm.callsOf (by decide)
  -- the participant is told what the delivery tells it, and nothing else
  have htold : callsOf callbackKinds (c.execute env bus supply).trace =
      callsOf callbackKinds (deliverMessage env message m).2.trace := by
    rw [callsOf_execute env h bus supply (by decide) (by decide), hx,
      (deliverOrSendFault_eq env hinbound).2]
  cases hu : message.notUnderstood? (env.parties.understood handler m.bus.parties) with
  | some header =>
      obtain ⟨hresult, hcalls⟩ := deliverMessage_of_not_understood env hknown hu
      rw [hcalls, hnone] at htold
      rw [htold, hresult, hme]
      constructor
      · intro hf
        cases hf with
        | failed _ _ _ hcalls => cases hcalls
        | notUnderstood handler' header' hh' hu' =>
            cases hh.symm.trans hh'
            rw [hunderstood, hu] at hu'
            cases hu'
            rfl
      · intro hf
        cases hf
        exact .notUnderstood handler header hh (by rw [hunderstood, hu])
  | none =>
      obtain ⟨failure, hresult, hcalls⟩ := deliverMessage_of_understood env hknown hu
      rw [hcalls, hnone, List.nil_append] at htold
      rw [htold, hresult, hme]
      constructor
      · intro hf
        cases hf with
        | failed _ _ failure' hcalls => cases hcalls; rfl
        | notUnderstood handler' header' hh' hu' =>
            cases hh.symm.trans hh'
            rw [hunderstood, hu] at hu'
            cases hu'
      · intro hf
        cases failure with
        | none => cases hf
        | some failure =>
            cases hf
            exact .failed handler _ failure rfl

/-- The failure that is recorded of an accepted request is the one of its delivery. -/
theorem failure_of_accepted (hi : e'.input = some message) :
    (c.execute env bus supply).command.failure = some cause ↔
      Undelivered env c e bus supply e' message
        (callsOf callbackKinds (c.execute env bus supply).trace) cause := by
  obtain ⟨-, -, -, -, -, hx⟩ := work_of_accepted env bus supply h hp hvariant
  have hinbound := inbound_of_accepted env bus supply h hp hvariant hi
  rw [undelivered_iff env bus supply h hp hvariant hi, execute_request_failure env h, hx,
    (deliverOrSendFault_eq env hinbound).1, failureOf_eq_some_iff]

/-- A participant that fails on an accepted request has one exchange sent to the sender, which
carries the fault. -/
theorem sendSync_of_failed_callback {replyTo : EndpointReference} {operation : String}
    (hi : e'.input = some message) (hr : e'.context.replyTo = some replyTo)
    (ho : env.directory.faultOperation? replyTo.serviceId = some operation)
    (hf : Undelivered env c e bus supply e' message
      (callsOf callbackKinds (c.execute env bus supply).trace) cause) :
    ∃ fault limit answer, CarriesFault cause fault ∧
      callsOf [.sendSync] (c.execute env bus supply).trace = [.sendSync fault limit answer] := by
  have hd := (undelivered_iff env bus supply h hp hvariant hi).mp hf
  have hinbound := inbound_of_accepted env bus supply h hp hvariant hi
  obtain ⟨-, -, hm, hme, -, hx⟩ := work_of_accepted env bus supply h hp hvariant
  generalize (c.reception e bus supply).atDelivery env .callback = m at *
  have hcalls : callsOf [.sendSync] m.trace = [] := hm.callsOf (by decide)
  obtain ⟨fault, limit, answer, hcarries, hsent⟩ := sendSync_of_deliverOrSendFault env hinbound
    (by rw [hme, hr]) ho hd
  rw [hcalls] at hsent
  refine ⟨fault, limit, answer, hcarries, ?_⟩
  rw [callsOf_execute env h bus supply (by decide) (by decide), hx, hsent]
  rfl

end Accepted

/-! ## The side of the sender -/

/-- A command of the sender that takes an exchange with a fault tells its handler the failure
that the fault describes, and nothing else, and acknowledges the exchange. -/
theorem execute_fault (h : c.ready = .ok (.sender, .response, e)) (hc : CarriesFault cause e)
    (hvariant : c.variant ≠ .requestResponse true) (bus : Bus σ) (supply : Supply)
    {handler : HandlerName} (hh : c.participant? .sender e bus = some handler) :
    (∃ failure, callsOf callbackKinds (c.execute env bus supply).trace =
      [.handleError handler (.remote cause.faultKind cause.reason) e.context failure]) ∧
    ∃ failure, callsOf signalKinds (c.execute env bus supply).trace =
      [.acknowledge e failure] := by
  have hl := (opening_participant? c .sender .response e bus supply).trans hh
  obtain ⟨failure, htold⟩ := told_of_fault env (l := c.opening .sender .response e bus supply) hc
    rfl hvariant hl
  obtain ⟨failure', hack⟩ := course_response_of_answered env c e bus supply hc.answered
  have hexchange : (c.course env .sender .response
      (c.opening .sender .response e bus supply)).2.exchange = e := by
    rw [course_exchange]
    exact exchange_of_fault env (l := c.opening .sender .response e bus supply) hc rfl c.variant
  rw [hexchange, ← execute_trace env h] at hack
  refine ⟨⟨failure, ?_⟩, failure', hack⟩
  rw [callsOf_execute env h bus supply (by decide) (by decide)]
  exact htold

/-! ## From the one side to the other -/

/-- When a callback request which the policy has accepted is not delivered, the failure of the
delivery is recorded, and one exchange is handed to the transport. Every command of the sender that
takes it, and that nobody waits for, tells its handler the kind and the reason of the failure, once
and nothing else, and acknowledges the exchange, once and without a refusal. The message, the
address and the operation for faults are those of the exchange as the policy has left it. -/
theorem failed_callback_told_to_sender (h : c.ready = .ok (.receiver, .request, e))
    (hvariant : c.variant = .callback) (bus : Bus σ) (supply : Supply)
    {e' : Exchange} {message : Message} {replyTo : EndpointReference} {operation : String}
    (hp : .policy e .receiver .request ⟨e', none⟩ ∈
      callsOf [.policy] (c.execute env bus supply).trace)
    (hi : e'.input = some message) (hr : e'.context.replyTo = some replyTo)
    (ho : env.directory.faultOperation? replyTo.serviceId = some operation)
    (hf : Undelivered env c e bus supply e' message
      (callsOf callbackKinds (c.execute env bus supply).trace) cause) :
    (c.execute env bus supply).command.failure = some cause ∧
    ∃ fault limit answer,
      callsOf [.sendSync] (c.execute env bus supply).trace = [.sendSync fault limit answer] ∧
      ∀ {σ' : Type} (env' : Environment σ') (c' : Command) (bus' : Bus σ') (supply' : Supply)
        (handler : HandlerName), c'.ready = .ok (.sender, .response, fault) →
        c'.variant ≠ .requestResponse true → c'.participant? .sender fault bus' = some handler →
        (∃ failure, callsOf callbackKinds (c'.execute env' bus' supply').trace =
          [.handleError handler (.remote cause.faultKind cause.reason) fault.context failure]) ∧
        ∃ failure, callsOf signalKinds (c'.execute env' bus' supply').trace =
          [.acknowledge fault failure] := by
  obtain ⟨fault, limit, answer, hcarries, hcalls⟩ :=
    sendSync_of_failed_callback env bus supply h hp hvariant hi hr ho hf
  refine ⟨(failure_of_accepted env bus supply h hp hvariant hi).mpr hf, fault, limit, answer,
    hcalls, ?_⟩
  intro σ' env' c' bus' supply' handler h' hvariant' hh
  exact execute_fault env' h' hcarries hvariant' bus' supply' hh

section Books

open Rehearsal

/-- An order of a book whose sender takes faults. -/
def reportedOrder : Exchange :=
  { bookOrder with
    context :=
      { bookOrder.context with replyTo := some { address := "mem://shop", serviceId := "shop" } } }

/-- The bookstore is out of the book, and the shop takes faults. -/
def bookstore : Environment Channel :=
  { environment (Dict.empty.insert "stock" { onMessage := some (.application "sold out" none) })
      .permissive with
    directory :=
      Table.empty.insert "shop" { serviceId := "shop", defaultFaultOperation := some "fault" } }

/-- The shop is told that the book is sold out. -/
theorem failed_callback_told_to_sender_book :
    let c : Command :=
      { variant := .callback, role := some .receiver, scope := some .request
        exchange := some reportedOrder, handler := some "stock" }
    let x := c.execute bookstore { parties := {} } .counting
    (∃ incoming, callsOf callbackKinds x.trace =
      [.handleMessage "stock" incoming (some (.application "sold out" none))]) ∧
    x.command.failure = some (.participant "place" "sold out" true none) ∧
    ∃ fault limit answer, callsOf [.sendSync] x.trace = [.sendSync fault limit answer] ∧
      ∀ {σ' : Type} (env' : Environment σ') (c' : Command) (bus' : Bus σ') (supply' : Supply)
        (handler : HandlerName), c'.ready = .ok (.sender, .response, fault) →
        c'.variant ≠ .requestResponse true → c'.participant? .sender fault bus' = some handler →
        (∃ failure, callsOf callbackKinds (c'.execute env' bus' supply').trace =
          [.handleError handler (.remote .generic "sold out") fault.context failure]) ∧
        ∃ failure, callsOf signalKinds (c'.execute env' bus' supply').trace =
          [.acknowledge fault failure] := by
  intro c x
  have hpolicy : callsOf [.policy] x.trace =
      [.policy reportedOrder .receiver .request ⟨reportedOrder, none⟩] := rfl
  have hcalled : ∃ incoming, callsOf callbackKinds x.trace =
      [.handleMessage "stock" incoming (some (.application "sold out" none))] := ⟨_, rfl⟩
  obtain ⟨incoming, hcalls⟩ := hcalled
  exact ⟨⟨incoming, hcalls⟩, failed_callback_told_to_sender bookstore rfl rfl _ _
    (hpolicy ▸ List.mem_singleton_self _) rfl rfl rfl
    (.failed "stock" incoming (.application "sold out" none) hcalls)⟩

end Books

end ServiceBus.Command
