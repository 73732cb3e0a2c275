import ServiceBus.Proofs.Command.Faults
import ServiceBus.Proofs.Leg.Undelivered

set_option autoImplicit false

/-! # Callback requests that are not delivered

When a callback request that the policy has accepted is not delivered (`Undelivered`), it has been
acknowledged before. What is left to do is to let the sender know, with an exchange of its own if
the sender takes faults, and to record the failure. However the one comes out, the other is the
failure of the delivery (`undelivered_reported`). -/

namespace ServiceBus.Command

open Work

variable {σ : Type} (env : Environment σ) {c : Command} {e : Exchange} (bus : Bus σ)
  (supply : Supply)

/-- What a trace tells of an undelivered request, whose exchange stands as `request`, and of the
failure `cause` of its delivery. `supply` is what the execution begins with. -/
structure Reported (request : Exchange) (cause : BusError) (supply : Supply)
    (trace : List Entry) : Prop where
  /-- The request has been acknowledged, and not been refused. -/
  acknowledged : ∃ failure, callsOf signalKinds trace = [.acknowledge request failure]
  /-- If the sender takes no faults, the one notification about a fault is that it is dropped, and
  nothing is handed to the transport. -/
  dropped : (request.context.replyTo = none ∨ ∃ replyTo, request.context.replyTo = some replyTo ∧
      env.directory.faultOperation? replyTo.serviceId = none) →
    callsOf [.send, .sendSync] trace = [] ∧ ∃ reason time, faultsOf trace =
      [Event.ofExchange request .receiver .request .fault .abortedApp
        (some ("fault dropped: " ++ reason)) time]
  /-- If the sender takes faults, an exchange that is made for this one is the only exchange that
  is handed to the transport. -/
  sent : ∀ replyTo operation, request.context.replyTo = some replyTo →
    env.directory.faultOperation? replyTo.serviceId = some operation →
    ∃ fault answer, FaultFor request replyTo operation cause supply fault ∧
      callsOf [.send, .sendSync] trace =
        [.sendSync fault env.settings.exchange.callTimeout answer]

/-! ## The leg at the delivery -/

/-- The leg `m` of a callback request has been acknowledged as its exchange stands, and nothing has
been done for a fault. -/
structure Delivering (supply : Supply) (m : Leg σ) : Prop where
  role : m.role = .receiver
  scope : m.scope = .request
  signalled : m.signalled = true
  acknowledged : ∃ failure, callsOf signalKinds m.trace = [.acknowledge m.exchange failure]
  transfers : callsOf [.send, .sendSync] m.trace = []
  faults : faultsOf m.trace = []
  id : m.supply.id = supply.id
  ids : m.supply.ids = supply.ids

/-- A request that somebody takes is on such a leg when it is delivered. -/
theorem delivering_atDelivery {handler : HandlerName}
    (hh : c.participant? .receiver e bus = some handler) :
    Delivering supply ((c.reception e bus supply).atDelivery env .callback) := by
  have hfind := does_resolveHandler (c.opening .receiver .request e bus supply)
  have hl := received bus supply hh
  have hd := steps_atDelivery env .callback (l := c.reception e bus supply)
  have hfaultless := (hfind.faultless (by decide) (by decide)).trans (faultless_atDelivery env)
  obtain ⟨hsignalled, hack⟩ := acknowledged_atDelivery env hl.signalled (hfind.callsOf (by decide))
  refine ⟨hd.role.trans hl.role, (hd.scope (by decide)).trans hl.scope, hsignalled, hack, ?_,
    hfaultless.notices, hfaultless.id, hfaultless.ids⟩
  rw [hd.callsOf (by decide), reception, hfind.callsOf (by decide)]
  rfl

namespace Delivering

variable {m : Leg σ} (h : Delivering supply m)

include h

/-- The delivery makes no difference to any of this. -/
theorem deliver (message : Message) : Delivering supply (deliverMessage env message m).2 := by
  have hd := does_deliverMessage env message m
  have hfaultless := faultless_deliverMessage env message m
  obtain ⟨failure, hack⟩ := h.acknowledged
  refine ⟨hd.role.trans h.role, (hd.scope (by decide)).trans h.scope, hd.signalled h.signalled,
    ⟨failure, ?_⟩, ?_, hfaultless.notices.trans h.faults, hfaultless.id.trans h.id,
    hfaultless.ids.trans h.ids⟩
  · rw [hd.callsOf (by decide), hd.exchange (by decide), hack]
  · rw [hd.callsOf (by decide), h.transfers]

/-- Once the fault has been seen to, there is nothing left to tell of the request. -/
theorem reported (cause : BusError) : Reported env m.exchange cause supply
    (notifyFailure env cause (sendFault env cause m).2).2.trace := by
  have hs := does_sendFault env cause m
  have hn := does_notifyFailure env cause (sendFault env cause m).2
  have hquiet := Leg.faultless_notifyOf env (sendFault env cause m).2 cause.lifecycleState
    (some cause.reason)
  obtain ⟨failure, hack⟩ := h.acknowledged
  refine ⟨⟨failure, ?_⟩, fun hnone => ?_, fun replyTo operation hr ho => ?_⟩
  · rw [hn.callsOf (by decide), hs.callsOf (by decide), hack]
  · obtain ⟨hcalls, reason, hfaults⟩ := sendFault_dropped env hnone cause
    refine ⟨?_, reason, m.supply.now.1, ?_⟩
    · rw [hn.callsOf (by decide), hcalls, h.transfers]
    · rw [notifyFailure, hquiet.notices, hfaults, h.faults, List.nil_append, Leg.event, h.role,
        h.scope]
  · have hkind : .sendSync ∈ [CallKind.send, .sendSync] := by decide
    obtain ⟨fault, answer, hfor, hcalls⟩ := callsOf_sendFault env hkind (by decide) hr ho cause
    refine ⟨fault, answer, hfor.of_supply h.id h.ids, ?_⟩
    rw [hn.callsOf (by decide), hcalls, h.transfers]
    rfl

/-- A leg on which the delivery fails ends as one that has been closed, with the exchange as it
was. -/
theorem deliverOrSendFault {message : Message} {f : BusError}
    (hi : m.exchange.inbound m.scope = some message)
    (hd : (deliverMessage env message m).1 = .error f) :
    ∃ k, Work.deliverOrSendFault env m = (.error f, k) ∧ k.closed = true ∧ k.signalled = true ∧
      k.exchange = m.exchange ∧ Reported env m.exchange f supply k.trace := by
  have hdeliver := h.deliver env supply message
  have hm : (deliverMessage env message m).2.exchange = m.exchange :=
    (does_deliverMessage env message m).exchange (by decide)
  have hs := does_sendFault env f (deliverMessage env message m).2
  have hn := does_notifyFailure env f (sendFault env f (deliverMessage env message m).2).2
  refine ⟨_, deliverOrSendFault_of_error env hi hd, ?_, ?_, ?_, ?_⟩
  · exact closed_notifyOf env _ .exchange _ f.isTerminal_lifecycleState
  · exact hn.signalled (hs.signalled hdeliver.signalled)
  · exact (hn.exchange (by decide)).trans ((hs.exchange (by decide)).trans hm)
  · rw [← hm]
    exact hdeliver.reported env supply f

end Delivering

/-! ## Executions -/

/-- What is done about a callback request that is not delivered. The request has been acknowledged,
once and without a refusal. If its sender takes faults, one exchange is handed to the transport,
which is made for the failure of the delivery; if not, none is, and the fault is notified as
dropped. However the transport takes that exchange, the failure that is recorded is the one of the
delivery, and the exchange of the request stays as the policy has left it. -/
theorem undelivered_reported {e' : Exchange} {message : Message} {f : BusError}
    (h : c.ready = .ok (.receiver, .request, e)) (hvariant : c.variant = .callback)
    (hp : .policy e .receiver .request ⟨e', none⟩ ∈
      callsOf [.policy] (c.execute env bus supply).trace)
    (hi : e'.input = some message)
    (hf : Undelivered env c e bus supply e' message
      (callsOf callbackKinds (c.execute env bus supply).trace) f) :
    let x := c.execute env bus supply
    Reported env e' f supply x.trace ∧ x.command.failure = some f ∧
      x.command.exchange = some e' := by
  intro x
  have hd := (undelivered_iff env bus supply h hp hvariant hi).mp hf
  have hinbound := inbound_of_accepted env bus supply h hp hvariant hi
  obtain ⟨handler, hh, -, hme, -, hx⟩ := work_of_accepted env bus supply h hp hvariant
  have hdelivering := delivering_atDelivery env bus supply hh
  generalize (c.reception e bus supply).atDelivery env .callback = m at *
  obtain ⟨k, hk, hclosed, hsignalled, hexchange, hreported⟩ :=
    hdelivering.deliverOrSendFault env supply hinbound hd
  rw [hk] at hx
  rw [hme] at hexchange hreported
  refine ⟨?_, (failure_of_accepted env bus supply h hp hvariant hi).mpr hf, ?_⟩
  · have htrace : x.trace = k.trace := by
      rw [execute_trace env h, course_eq_settle, hx]
      exact settle_of_signalled env c.rethrow .receiver (.error f) hclosed hsignalled
    rw [htrace]
    exact hreported
  · rw [execute_exchange env h, course_exchange, hx, hexchange]

section Books

open Rehearsal

/-- The command of the stock for a callback request. -/
def stocking (e : Exchange) : Command :=
  { variant := .callback, role := some .receiver, scope := some .request, exchange := some e
    handler := some "stock" }

/-- The shop that takes faults is sent one about the book that is sold out; of a shop that takes
none, only monitoring hears. -/
theorem undelivered_reported_sold_out :
    let x e := (stocking e).execute bookstore { parties := {} } .counting
    let soldOut : BusError := .participant "place" "sold out" true none
    (∃ fault answer,
      FaultFor reportedOrder { address := "mem://shop", serviceId := "shop" } "fault" soldOut
        .counting fault ∧
      callsOf [.send, .sendSync] (x reportedOrder).trace =
        [.sendSync fault bookstore.settings.exchange.callTimeout answer]) ∧
    (x reportedOrder).command.failure = some soldOut ∧
    (∃ reason time, faultsOf (x bookOrder).trace =
      [Event.ofExchange bookOrder .receiver .request .fault .abortedApp
        (some ("fault dropped: " ++ reason)) time]) ∧
    (x bookOrder).command.failure = some soldOut := by
  intro x soldOut
  have hreported : callsOf [.policy] (x reportedOrder).trace =
      [.policy reportedOrder .receiver .request ⟨reportedOrder, none⟩] := rfl
  have hplain : callsOf [.policy] (x bookOrder).trace =
      [.policy bookOrder .receiver .request ⟨bookOrder, none⟩] := rfl
  obtain ⟨hsent, hfailure, -⟩ := undelivered_reported bookstore { parties := {} } .counting
    (c := stocking reportedOrder) rfl rfl (hreported ▸ List.mem_singleton_self _) rfl
    (.failed "stock" _ (.application "sold out" none) rfl)
  obtain ⟨hdropped, hfailure', -⟩ := undelivered_reported bookstore { parties := {} } .counting
    (c := stocking bookOrder) rfl rfl (hplain ▸ List.mem_singleton_self _) rfl
    (.failed "stock" _ (.application "sold out" none) rfl)
  exact ⟨hsent.sent _ _ rfl rfl, hfailure, (hdropped.dropped (.inl rfl)).2, hfailure'⟩

end Books

end ServiceBus.Command
