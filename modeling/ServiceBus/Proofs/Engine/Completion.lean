import ServiceBus.Proofs.Engine.Pending
import ServiceBus.Proofs.Leg.Calls

set_option autoImplicit false

/-! # How often a request is completed

A response to a request that is pending is taken through the leg of the sender, and any other is
rejected without a trace (`Rejected`). Whether the request is still pending afterwards depends on
the operation: only where the operation expects a response is it let go with the first one
(`store_completeResponse`). The participant is then told once, and whatever else is done, no other
response to the request is accepted, unless a request is kept anew (`completed_once`). Where
the operation expects no response, the request stays pending, and the participant is told again
with every response (`completed_twice`). -/

namespace ServiceBus.Engine

variable {σ : Type} (env : Environment σ)

/-! ## One response -/

/-- The command by which a response is taken. -/
def completion (e : Exchange) : Command :=
  prepare env (Variant.ofOperation (operationOf env e) false) .sender .response e

/-- A request is let go with a response if its operation expects one. -/
theorem store_completeResponse (e : Exchange) (bus : Bus σ) (supply : Supply) :
    (completeResponse env e bus supply).bus.store =
      if (operationOf env e).pattern = .inOut then bus.store.erase e.messageId
      else bus.store := by
  cases h : bus.store.contains e.messageId with
  | true =>
      have hvariant : (completion env e).variant = .requestResponse false ↔
          (operationOf env e).pattern = .inOut :=
        ofOperation_eq_iff.trans (and_iff_left rfl)
      have hstore := Command.execute_store_response env (c := completion env e) rfl bus supply
      rw [completeResponse_of_pending env h]
      simp only [hvariant] at hstore
      exact hstore
  | false =>
      rw [(completeResponse_of_not_pending env h supply).bus, Table.erase_of_not_contains h,
        ite_self]

/-- The participant is told about a response at most once. -/
theorem callbacks_completeResponse (e : Exchange) (bus : Bus σ) (supply : Supply) :
    (callsOf callbackKinds (completeResponse env e bus supply).trace).length ≤ 1 := by
  cases h : bus.store.contains e.messageId with
  | true =>
      have hcalls : callsOf callbackKinds (dispatchInbound env .sender .response e bus supply).trace =
          _ := Command.callsOf_execute env (c := completion env e) rfl bus supply (by decide) (by decide)
      rw [completeResponse_of_pending env h, hcalls]
      exact Work.atMost_incomingResponse env _ _
  | false =>
      rw [(completeResponse_of_not_pending env h supply).trace]
      exact Nat.zero_le 1

/-- A response that is taken makes a call. -/
theorem trace_ne_nil_of_pending {e : Exchange} {bus : Bus σ}
    (h : bus.store.contains e.messageId = true) (supply : Supply) :
    (completeResponse env e bus supply).trace ≠ [] := by
  rw [completeResponse_of_pending env h]
  exact Command.execute_response_trace_ne_nil env rfl bus supply

/-! ## Whatever is done afterwards -/

/-- The interaction may have a request kept. -/
def Interaction.Keeps : Interaction → Prop
  | .sendOneWay o _ _ => o.pattern = .inOut
  | .dispatchInbound _ .request e => (operationOf env e).pattern = .inOut
  | _ => False

/-- What the participant is told by an interaction that completes the request. -/
def Interaction.told (id : Uuid) (s : Bus σ × Supply) : Interaction → List Call
  | .completeResponse e =>
      if e.messageId = id then callsOf callbackKinds (Engine.completeResponse env e s.1 s.2).trace
      else []
  | _ => []

/-- What the participant is told in a run by the interactions that complete the request. -/
def told (id : Uuid) : List Interaction → Bus σ × Supply → List Call
  | [], _ => []
  | i :: is, s => i.told env id s ++ told id is (i.perform env s)

/-- The command of an interaction keeps a request only if the interaction may do so. -/
theorem Interaction.keeps_of_persist {i : Interaction} {s : Bus σ × Supply} {c : Command}
    {supply : Supply} (hi : i.command env s = some (c, supply)) :
    ∃ role scope e, c.ready = .ok (role, scope, e) ∧
      (.persist ∈ Command.deeds c.variant role scope → i.Keeps env) := by
  cases i with
  | callBlocking o message context =>
      cases hi
      refine ⟨_, _, _, rfl, fun hp => ?_⟩
      obtain ⟨-, sync, hv, hsync⟩ := Command.request_of_persist hp
      have hwaits := (ofOperation_eq_iff.mp hv).2
      rw [hsync rfl] at hwaits
      cases hwaits
  | sendOneWay o message context =>
      cases hi
      refine ⟨_, _, _, rfl, fun hp => ?_⟩
      obtain ⟨-, sync, hv, -⟩ := Command.request_of_persist hp
      exact (ofOperation_eq_iff.mp hv).1
  | dispatchInbound role scope e =>
      cases hi
      refine ⟨_, _, _, rfl, fun hp => ?_⟩
      obtain ⟨rfl, sync, hv, -⟩ := Command.request_of_persist hp
      exact (ofOperation_eq_iff.mp hv).1
  | completeResponse e =>
      simp only [command] at hi
      split at hi
      · cases hi
        refine ⟨_, _, _, rfl, fun hp => ?_⟩
        cases (Command.request_of_persist hp).1
      · cases hi

section Gone

variable {env} {id : Uuid}

/-- An interaction that keeps no request makes none pending. -/
theorem Interaction.not_contains_of_not_keeps (i : Interaction) {s : Bus σ × Supply}
    (hgone : s.1.store.contains id = false) (hno : ¬ i.Keeps env) :
    (i.perform env s).1.store.contains id = false := by
  rw [i.perform_eq]
  cases hi : i.command env s with
  | none => exact hgone
  | some p =>
      obtain ⟨role, scope, e, hc, hkeeps⟩ := Interaction.keeps_of_persist env hi
      exact Command.not_contains_execute_of_not_persist env hc s.1 p.2 (fun hp => hno (hkeeps hp))
        hgone

/-- Nobody is told about a request that is not pending. -/
theorem Interaction.told_of_not_contains (i : Interaction) {s : Bus σ × Supply}
    (hgone : s.1.store.contains id = false) : i.told env id s = [] := by
  cases i with
  | completeResponse e =>
      simp only [told]
      split
      · next hid =>
          subst hid
          rw [(completeResponse_of_not_pending env hgone s.2).trace, callsOf_nil]
      · rfl
  | _ => rfl

/-- A request that is not pending stays so in a run that keeps none, and nobody is told. -/
theorem run_of_not_contains (is : List Interaction) (s : Bus σ × Supply)
    (hgone : s.1.store.contains id = false) (hno : ∀ i ∈ is, ¬ i.Keeps env) :
    (run env is s).1.store.contains id = false ∧ told env id is s = [] := by
  induction is generalizing s with
  | nil => exact ⟨hgone, rfl⟩
  | cons i is ih =>
      -- the first interaction makes it no different for the others
      obtain ⟨hfirst, hrest⟩ := List.forall_mem_cons.mp hno
      obtain ⟨hafter, htold⟩ := ih (i.perform env s) (i.not_contains_of_not_keeps hgone hfirst) hrest
      refine ⟨hafter, ?_⟩
      rw [told, i.told_of_not_contains hgone, htold, List.nil_append]

end Gone

/-- A response is rejected if and only if its request is not pending. One that is not rejected is
taken through the leg of the sender, and the participant is told about it at most once; the
request is let go with it if and only if its operation expects a response. From then on the
participant is told nothing more and every response is rejected, whatever is done, as long as no
request is kept anew. -/
theorem completed_once (e : Exchange) (bus : Bus σ) (supply : Supply) :
    let x := completeResponse env e bus supply
    (bus.store.contains e.messageId = false ↔ Rejected e bus supply x) ∧
    (bus.store.contains e.messageId = true →
      x = dispatchInbound env .sender .response e bus supply ∧
      (callsOf callbackKinds x.trace).length ≤ 1 ∧
      (x.bus.store.contains e.messageId = false ↔ (operationOf env e).pattern = .inOut)) ∧
    (x.bus.store.contains e.messageId = false →
      ∀ is : List Interaction, (∀ i ∈ is, ¬ i.Keeps env) →
        let s := run env is (x.bus, x.supply)
        told env e.messageId is (x.bus, x.supply) = [] ∧
        ∀ e' : Exchange, e'.messageId = e.messageId →
          Rejected e' s.1 s.2 (completeResponse env e' s.1 s.2)) := by
  intro x
  have hstore : x.bus.store = _ := store_completeResponse env e bus supply
  refine ⟨⟨fun h => completeResponse_of_not_pending env h supply, fun hr => ?_⟩, fun h => ?_, ?_⟩
  · -- what is taken makes a call
    cases h : bus.store.contains e.messageId with
    | false => rfl
    | true => exact absurd hr.trace (trace_ne_nil_of_pending env h supply)
  · refine ⟨completeResponse_of_pending env h supply, callbacks_completeResponse env e bus supply,
      ?_⟩
    rw [hstore]
    split
    · next hp => exact ⟨fun _ => hp, fun _ => Table.contains_erase_self _ _⟩
    · next hp => exact ⟨fun hno => absurd (h.symm.trans hno) (by decide), fun hp' => absurd hp' hp⟩
  · intro hgone is hno s
    obtain ⟨hafter, htold⟩ := run_of_not_contains is (x.bus, x.supply) hgone hno
    refine ⟨htold, ?_⟩
    intro e' hid
    rw [← hid] at hafter
    exact completeResponse_of_not_pending env hafter s.2

section Books

open Rehearsal

/-- The shop takes the price once. -/
theorem completed_once_priced :
    let env := environment ∅ .permissive
    let x := completeResponse env pricedOrder placed.bus placed.supply
    placed.bus.store.contains pricedOrder.messageId = true ∧
      (callsOf callbackKinds x.trace).length ≤ 1 ∧
      Rejected pricedOrder x.bus x.supply (completeResponse env pricedOrder x.bus x.supply) := by
  intro env x
  have hpending : placed.bus.store.contains pricedOrder.messageId = true := rfl
  obtain ⟨-, htaken, hrejected⟩ := completed_once env pricedOrder placed.bus placed.supply
  obtain ⟨-, honce, hgone⟩ := htaken hpending
  have hno : ∀ i ∈ ([] : List Interaction), ¬ i.Keeps env := by simp
  exact ⟨hpending, honce, (hrejected (hgone.mpr rfl) [] hno).2 pricedOrder rfl⟩

/-- A price that comes as an answer to a one-way order is taken as often as it comes. -/
theorem completed_twice :
    let env := environment ∅ .permissive
    let answer := { pricedOrder with pattern := .oneWay }
    let x := completeResponse env answer placed.bus placed.supply
    let y := completeResponse env answer x.bus x.supply
    placed.result = .ok answer.messageId ∧ x.result = .ok () ∧ y.result = .ok () ∧
      ∃ incoming,
        callsOf callbackKinds x.trace = [.handleMessage "shop" incoming none] ∧
        callsOf callbackKinds y.trace = [.handleMessage "shop" incoming none] :=
  ⟨rfl, rfl, rfl, _, rfl, rfl⟩

end Books

end ServiceBus.Engine
