import ServiceBus.Proofs.Engine.Returning
import ServiceBus.Proofs.Leg.Sending

set_option autoImplicit false

/-! # What is kept of a request that is sent

A request whose response comes later is kept when the transport gets it. If the transport takes
it, it stays the only thing that has been added to what is kept, and the identifier under which a
response is found is returned; if the transport or the policy does not take it, nothing is left of
it, and their failure is returned (`sendOneWay_keeps`). Requests without a response are never
kept. -/

namespace ServiceBus.Engine

open Command Work

variable {σ : Type} (env : Environment σ)

/-- The trace tells that the policy has accepted the request `asked` as `sent`, and that the
transport has taken it when it had been added to what is kept. -/
structure Accepted (asked sent : Exchange) (before after : Store) (trace : List Entry) : Prop where
  added : before.Adds sent after
  passage : entriesOf passageKinds trace =
    [⟨.policy asked .sender .request ⟨sent, none⟩, before⟩, ⟨.send sent none, after⟩]

/-- The trace tells by whom the request `asked` has been declined: the policy, with a violation, or
the transport, although the request had been added to what is kept. -/
inductive Declined (asked : Exchange) (before : Store) (trace : List Entry) : BusError → Prop where
  | rejected (judged : Exchange) (violation : PolicyViolation)
      (h : entriesOf passageKinds trace =
        [⟨.policy asked .sender .request ⟨judged, some violation⟩, before⟩]) :
      Declined asked before trace (BusError.ofViolation violation)
  | unsent (sent : Exchange) (err : BusError) (kept : Store) (hadds : before.Adds sent kept)
      (h : entriesOf passageKinds trace =
        [⟨.policy asked .sender .request ⟨sent, none⟩, before⟩, ⟨.send sent (some err), kept⟩]) :
      Declined asked before trace err

section Request

variable {o : Operation} (message : Message) (context : CallContext) (bus : Bus σ)
  (supply : Supply)

/-! ## Operations with a response -/

/-- The ruling on a request, as it is recorded. -/
theorem ruled_asking {v : Option PolicyViolation}
    (hv : ((asking env o message context bus supply false).ruling env).violation = v) :
    (asking env o message context bus supply false).ruled env =
      ⟨.policy (newExchange o context message supply).1 .sender .request
        ⟨((asking env o message context bus supply false).ruling env).exchange, v⟩, bus.store⟩ := by
  subst hv
  rfl

/-- A request without waiting takes one of the courses of its leg, and what is kept and asked on
this leg is what is kept and asked at all. -/
theorem sendOneWay_course (ho : o.pattern = .inOut) :
    let x := sendOneWay env o message context bus supply
    ∃ w, Sending env (asking env o message context bus supply false) w ∧
      (x.result = w.1.map fun _ => context.messageId) ∧ x.bus.store = w.2.bus.store ∧
      entriesOf passageKinds x.trace = entriesOf passageKinds w.2.trace := by
  intro x
  have hv : Variant.ofOperation o false = .requestResponse false :=
    ofOperation_eq_iff.mpr ⟨ho, rfl⟩
  have hready : (request env o message context supply false).ready =
      .ok (.sender, .request, (newExchange o context message supply).1) := rfl
  have hwork : work env (Variant.ofOperation o false) .sender .request = sendRequest env := by
    rw [hv]
    rfl
  have hresult := sendOneWay_result env o message context bus supply
  have hstore := execute_store env hready bus (newExchange o context message supply).2
  have hentries : entriesOf passageKinds x.trace = entriesOf passageKinds
      (work env (Variant.ofOperation o false) .sender .request
        (asking env o message context bus supply false)).2.trace :=
    entriesOf_execute env hready bus _ (by decide) (by decide)
  rw [hwork] at hresult hentries
  have hkept : x.bus.store =
      (sendRequest env (asking env o message context bus supply false)).2.bus.store := by
    rw [← hwork]
    exact hstore
  exact ⟨_, sending_sendRequest env rfl, hresult, hkept, hentries⟩

section Response

variable (hnew : bus.store.contains context.messageId = false)
  (hkeep : ∀ e role agreed scope s,
    (env.parties.enforce e role agreed scope s).1.exchange.messageId = e.messageId)

include hnew hkeep

/-- The message of the request is new, also as the policy leaves it. -/
theorem new_asking :
    (asking env o message context bus supply false).bus.store.contains
      ((asking env o message context bus supply false).ruling env).exchange.messageId = false := by
  have hid : ((asking env o message context bus supply false).ruling env).exchange.messageId =
      context.messageId := hkeep _ _ _ _ _
  rw [hid]
  exact hnew

variable (ho : o.pattern = .inOut)

include ho

theorem accepted_of_ok {id : Uuid}
    (hok : (sendOneWay env o message context bus supply).result = .ok id) :
    id = context.messageId ∧ ∃ sent, sent.messageId = id ∧
      Accepted (newExchange o context message supply).1 sent bus.store
        (sendOneWay env o message context bus supply).bus.store
        (sendOneWay env o message context bus supply).trace := by
  obtain ⟨w, hcourse, hresult, hstore, hentries⟩ :=
    sendOneWay_course env message context bus supply ho
  rw [hresult] at hok
  cases hw : w.1 with
  | error failure =>
      rw [hw] at hok
      cases hok
  | ok _ =>
      rw [hw] at hok
      cases hok
      obtain ⟨hv, hadds, hpassage⟩ :=
        hcourse.of_ok (new_asking env message context bus supply hnew hkeep) hw
      rw [← hstore] at hadds
      rw [ruled_asking env message context bus supply hv, ← hstore, ← hentries] at hpassage
      exact ⟨rfl, _, hkeep _ _ _ _ _, hadds, hpassage⟩

theorem declined_of_error {err : BusError}
    (herr : (sendOneWay env o message context bus supply).result = .error err) :
    (sendOneWay env o message context bus supply).bus.store = bus.store ∧
      Declined (newExchange o context message supply).1 bus.store
        (sendOneWay env o message context bus supply).trace err := by
  obtain ⟨w, hcourse, hresult, hstore, hentries⟩ :=
    sendOneWay_course env message context bus supply ho
  rw [hresult] at herr
  cases hw : w.1 with
  | ok _ =>
      rw [hw] at herr
      cases herr
  | error failure =>
      rw [hw] at herr
      cases herr
      obtain ⟨hstays, hcause⟩ :=
        hcourse.of_error (new_asking env message context bus supply hnew hkeep) hw
      refine ⟨hstore.trans hstays, ?_⟩
      rcases hcause with ⟨violation, hv, rfl, hpassage⟩ | ⟨hv, kept, hadds, hpassage⟩
      · rw [ruled_asking env message context bus supply hv, ← hentries] at hpassage
        exact .rejected _ violation hpassage
      · rw [ruled_asking env message context bus supply hv, ← hentries] at hpassage
        exact .unsent _ _ kept hadds hpassage

end Response

/-! ## Operations without a response -/

/-- A request that expects no response is never kept. -/
theorem steady_of_not_inOut (ho : o.pattern ≠ .inOut) :
    (sendOneWay env o message context bus supply).bus.store = bus.store ∧
      ∀ entry ∈ (sendOneWay env o message context bus supply).trace, entry.store = bus.store := by
  have hready : (request env o message context supply false).ready =
      .ok (.sender, .request, (newExchange o context message supply).1) := rfl
  have hdeeds : .persist ∉ deeds (Variant.ofOperation o false) .sender .request ∧
      .release ∉ deeds (Variant.ofOperation o false) .sender .request := by
    cases hv : Variant.ofOperation o false with
    | oneWay => decide
    | callback => decide
    | requestResponse sync => exact absurd (ofOperation_eq_iff.mp hv).1 ho
  exact ⟨store_execute env hready bus _ hdeeds.1 hdeeds.2,
    entry_store_execute env hready bus _ hdeeds.1 hdeeds.2⟩

end Request

/-- What is kept of a request that is sent without waiting for its response. Where the operation
expects one, the identifier of the message is new, and the policy leaves it as it is, there are two
cases. If an identifier is returned, it is the one of the message; the policy has accepted the
request, the transport has taken it when it was kept already, as it was handed over, and it is the
only thing that has been added to what is kept. If a failure is returned, what is kept is as it was
before, and the failure is the violation with which the policy has rejected the request, or the one
of the transport, which has not taken the request although it was kept. Where the operation expects
no response, what is kept never changes. -/
theorem sendOneWay_keeps (o : Operation) (message : Message) (context : CallContext) (bus : Bus σ)
    (supply : Supply) :
    let asked := (newExchange o context message supply).1
    let x := sendOneWay env o message context bus supply
    (o.pattern = .inOut → bus.store.contains context.messageId = false →
      (∀ e role agreed scope s,
        (env.parties.enforce e role agreed scope s).1.exchange.messageId = e.messageId) →
      (∀ id, x.result = .ok id → id = context.messageId ∧
        ∃ sent, sent.messageId = id ∧ Accepted asked sent bus.store x.bus.store x.trace) ∧
      (∀ err, x.result = .error err →
        x.bus.store = bus.store ∧ Declined asked bus.store x.trace err)) ∧
    (o.pattern ≠ .inOut →
      x.bus.store = bus.store ∧ ∀ entry ∈ x.trace, entry.store = bus.store) := by
  intro asked x
  refine ⟨fun ho hnew hkeep => ⟨fun id hok => ?_, fun err herr => ?_⟩, fun ho => ?_⟩
  · exact accepted_of_ok env message context bus supply hnew hkeep ho hok
  · exact declined_of_error env message context bus supply hnew hkeep ho herr
  · exact steady_of_not_inOut env message context bus supply ho

section Books

open Rehearsal

/-- The order of a book is the only thing that has been added to what is kept, and it had been
added when the transport got it. -/
theorem sendOneWay_keeps_placed :
    market.store.contains bookOrder.context.messageId = false ∧ placed.result = .ok default ∧
      ∃ sent, sent.messageId = default ∧
        Accepted placedOrder sent market.store placed.bus.store placed.trace := by
  have hnew : market.store.contains bookOrder.context.messageId = false := rfl
  have hsent : placed.result = .ok default := rfl
  have hkeep := keepMessageIds_parties ∅ .permissive
  obtain ⟨-, hkept⟩ := ((sendOneWay_keeps (environment ∅ .permissive) place { body := "book" }
    bookOrder.context market .counting).1 rfl hnew hkeep.enforce).1 default hsent
  exact ⟨hnew, hsent, hkept⟩

end Books

end ServiceBus.Engine
