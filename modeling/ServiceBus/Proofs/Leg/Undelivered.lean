import ServiceBus.Proofs.Leg.Beats

set_option autoImplicit false

/-! # Requests that are not delivered

What is done for a fault shows in three places: in the notifications about a fault (`faultsOf`),
in the exchanges that are handed to the transport, and in the identifiers that are drawn for a new
exchange. Up to the end of a delivery nothing is done for a fault (`Leg.Faultless`,
`faultless_deliverMessage`), so a fault that is dropped afterwards has the only notification
(`sendFault_dropped`), and one that is sent has the first identifiers (`FaultFor.of_supply`). -/

namespace ServiceBus

/-- The notifications of a trace that are about a fault. -/
def faultsOf (trace : List Entry) : List Event :=
  (noticesOf trace).filter fun n => n.kind = .fault

variable {σ α β : Type}

namespace Leg

/-! ## Nothing done for a fault -/

/-- On the way from `l` to `l'` nothing is notified about a fault, and no identifier is drawn. -/
structure Faultless (l l' : Leg σ) : Prop where
  notices : faultsOf l'.trace = faultsOf l.trace
  id : l'.supply.id = l.supply.id
  ids : l'.supply.ids = l.supply.ids

variable {l l' l'' : Leg σ}

theorem Faultless.refl (l : Leg σ) : Faultless l l := ⟨rfl, rfl, rfl⟩

theorem Faultless.trans (h : Faultless l l') (h' : Faultless l' l'') : Faultless l l'' :=
  ⟨h'.notices.trans h.notices, h'.id.trans h.id, h'.ids.trans h.ids⟩

/-- Steps that neither notify nor draw do nothing for a fault. -/
theorem Steps.faultless {acts : List Act} (h : Steps acts l l') (hn : .call .notify ∉ acts)
    (hd : .draw ∉ acts) : Faultless l l' := by
  refine ⟨?_, ?_, ?_⟩
  · rw [faultsOf, h.notices hn, faultsOf]
  · rw [h.supply hd]
  · rw [h.supply hd]

/-- A call that is no notification does nothing for a fault. -/
theorem faultless_called (l : Leg σ) {c : Call} (hc : c.kind ≠ .notify) (s : σ) :
    Faultless l (l.called c s) := by
  refine ⟨?_, rfl, rfl⟩
  rw [faultsOf, notices_called l hc, faultsOf]

/-- A notification about the exchange itself does nothing for a fault. -/
theorem faultless_notifyOf (env : Environment σ) (l : Leg σ) (state : LifecycleState)
    (reason : Option String) : Faultless l (Work.notifyOf env .exchange state reason l).2 := by
  have hnone : [l.event .exchange state reason].filter (fun n => n.kind = .fault) = [] := rfl
  refine ⟨?_, rfl, rfl⟩
  rw [faultsOf, notices_notifyOf, List.filter_append, hnone, List.append_nil, faultsOf]

end Leg

/-- An exchange that is made for a fault has the first identifiers that are drawn. -/
theorem FaultFor.of_supply {request : Exchange} {replyTo : EndpointReference}
    {operation : String} {cause : BusError} {fault : Exchange} {supply supply' : Supply}
    (h : FaultFor request replyTo operation cause supply' fault) (hid : supply'.id = supply.id)
    (hids : supply'.ids = supply.ids) : FaultFor request replyTo operation cause supply fault := by
  have hfirst : supply'.nextId.1 = supply.nextId.1 := by simp only [Supply.nextId, hid, hids]
  have hsecond : supply'.nextId.2.nextId.1 = supply.nextId.2.nextId.1 := by
    simp only [Supply.nextId, hid, hids]
  exact { h with messageId := h.messageId.trans hfirst, id := h.id.trans hsecond }

namespace Work

variable (env : Environment σ)

/-- On every leg, the work does nothing for a fault. -/
def Faultless (x : Work σ α) : Prop := ∀ l : Leg σ, l.Faultless (x l).2

theorem Does.faultless {acts : List Act} {x : Work σ α} (h : Does acts x)
    (hn : .call .notify ∉ acts) (hd : .draw ∉ acts) : Faultless x :=
  fun l => (h l).faultless hn hd

theorem Faultless.bind {x : Work σ α} {f : α → Work σ β} (hx : Faultless x)
    (hf : ∀ a, Faultless (f a)) : Faultless (x >>= f) := by
  intro l
  cases hr : (x l).1 with
  | ok a =>
      rw [bind_of_ok hr]
      exact (hx l).trans (hf a _)
  | error e =>
      rw [bind_of_error hr]
      exact hx l

theorem faultless_handOver (handler : HandlerName) (incoming : Incoming) :
    Faultless (handOver env handler incoming) := by
  refine Faultless.bind (fun l => Leg.faultless_notifyOf env l .appIn none) fun _ => ?_
  refine Faultless.bind (fun l => ?_) fun failure => ?_
  · exact l.faultless_called (c := .handleMessage handler incoming _) (by simp [Call.kind]) _
  · have hcheck : Does [] (check (failure.map (BusError.ofHandler incoming.operation)) :
        Work σ Unit) := Does.check _
    exact hcheck.faultless (by decide) (by decide)

/-- A delivery does nothing for a fault, whether it fails or not. -/
theorem faultless_deliverMessage (message : Message) : Faultless (deliverMessage env message) := by
  refine (does_requireHandler.faultless (by decide) (by decide)).bind fun handler => ?_
  refine Faultless.bind (fun l => .refl l) fun l => ?_
  split
  · exact fun l => .refl l
  · exact faultless_handOver env handler _

variable {l : Leg σ}

/-- Nothing is done for a fault before a request is delivered. -/
theorem faultless_atDelivery : l.Faultless (l.atDelivery env .callback) := by
  have harrive : l.Faultless (arrive env .callback l).2 := Leg.faultless_notifyOf env l _ none
  have hjudge := (does_applyPolicy env).faultless (by decide) (by decide)
    (arrive env .callback l).2
  exact (harrive.trans hjudge).trans
    ((does_preface env .callback).faultless (by decide) (by decide) _)

/-! ## The signal before the delivery -/

/-- A callback request has been acknowledged as the policy has left it when it is delivered. -/
theorem acknowledged_atDelivery (hl : l.signalled = false) (hs : callsOf signalKinds l.trace = []) :
    let m := l.atDelivery env .callback
    m.signalled = true ∧ ∃ failure, callsOf signalKinds m.trace =
      [.acknowledge m.exchange failure] := by
  intro m
  have hj := steps_judged env .callback (l := l)
  have hack := does_acknowledge env (l.judged env .callback)
  obtain ⟨failure, hcalls⟩ := callsOf_acknowledge env ((hj.signalled_eq (by decide)).trans hl)
  rw [hj.callsOf (by decide), hs, ← hack.exchange (by decide)] at hcalls
  exact ⟨acknowledge_signalled env _, failure, hcalls⟩

/-! ## After a delivery that has failed -/

/-- What is dropped is notified, and nothing is handed to the transport for it. -/
theorem sendFault_dropped (h : l.exchange.context.replyTo = none ∨
      ∃ replyTo, l.exchange.context.replyTo = some replyTo ∧
        env.directory.faultOperation? replyTo.serviceId = none) (cause : BusError) :
    callsOf [.send, .sendSync] (sendFault env cause l).2.trace =
        callsOf [.send, .sendSync] l.trace ∧
      ∃ reason, faultsOf (sendFault env cause l).2.trace = faultsOf l.trace ++
        [l.event .fault .abortedApp (some ("fault dropped: " ++ reason))] := by
  obtain ⟨reason, hx⟩ := sendFault_of_none env h cause
  have hdrop : Leg.Steps noticeActs l (dropFault env reason l).2 := does_notifyOf env _ _ _ l
  rw [hx]
  refine ⟨hdrop.callsOf (by decide), reason, ?_⟩
  rw [faultsOf, dropFault, Leg.notices_notifyOf, List.filter_append]
  rfl

end Work

end ServiceBus
