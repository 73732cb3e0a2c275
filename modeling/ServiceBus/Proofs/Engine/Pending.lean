import ServiceBus.Engine
import ServiceBus.Proofs.Command.Keeping

set_option autoImplicit false

/-! # Requests that wait for a response

What is done with the engine is a list of interactions, one after the other on the same bus
(`run`). A request that has been sent is kept as long as none of them lets it go
(`Interaction.LetsGo`): what one interaction keeps (`Interaction.contains_perform`), a run keeps
(`contains_run`). A response to it is accepted until then, and not after it
(`pending_until_let_go`).

A response that is taken is not the only interaction that lets a request go. Requests of both
sides are kept under the identifier of their message alone, so that whoever hosts the receiver as
well lets the sender's request go with the receiver's response (`pending_lost`). -/

namespace ServiceBus.Engine

variable {σ : Type} (env : Environment σ)

/-! ## Responses -/

/-- A response to a request that is kept is taken through the leg of the sender. -/
theorem completeResponse_of_pending {e : Exchange} {bus : Bus σ}
    (h : bus.store.contains e.messageId = true) (supply : Supply) :
    completeResponse env e bus supply = dispatchInbound env .sender .response e bus supply :=
  if_pos h

/-- The response has been rejected: nobody has been called, and everything is as it was. -/
structure Rejected (e : Exchange) (bus : Bus σ) (supply : Supply) (x : Execution σ Unit) :
    Prop where
  result : x.result = .error (notPending e)
  trace : x.trace = []
  bus : x.bus = bus
  supply : x.supply = supply

/-- Any other response is rejected. -/
theorem completeResponse_of_not_pending {e : Exchange} {bus : Bus σ}
    (h : bus.store.contains e.messageId = false) (supply : Supply) :
    Rejected e bus supply (completeResponse env e bus supply) := by
  have hx : completeResponse env e bus supply = _ := if_neg (by rw [h]; exact Bool.false_ne_true)
  rw [hx]
  exact ⟨rfl, rfl, rfl, rfl⟩

/-! ## Requests -/

/-- Only where an operation expects a response there is one, and `sync` says whether somebody
waits for it. -/
theorem ofOperation_eq_iff {o : Operation} {sync sync' : Bool} :
    Variant.ofOperation o sync = .requestResponse sync' ↔ o.pattern = .inOut ∧ sync = sync' := by
  unfold Variant.ofOperation
  cases o.pattern with
  | inOut => simp
  | robustOneWay => simp
  | oneWay => cases o.hasCallback <;> simp

/-- An identifier is returned only for a request that has not failed, and it is the one of its
message. -/
theorem failure_of_sendOneWay_ok {o : Operation} {message : Message} {context : CallContext}
    {bus : Bus σ} {supply : Supply} {id : Uuid}
    (h : (sendOneWay env o message context bus supply).result = .ok id) :
    (sendOneWay env o message context bus supply).command.failure = none ∧
      id = context.messageId := by
  unfold sendOneWay at h ⊢
  dsimp only at h ⊢
  split at h
  · cases h
  · cases h
  · next hnone =>
      cases h
      exact ⟨hnone, rfl⟩

/-! ## Interactions -/

/-- Something that is done with the engine. -/
inductive Interaction where
  | callBlocking (o : Operation) (message : Message) (context : CallContext)
  | sendOneWay (o : Operation) (message : Message) (context : CallContext)
  | dispatchInbound (role : Role) (scope : Scope) (e : Exchange)
  | completeResponse (e : Exchange)

/-- The bus after an interaction, and where the next identifiers come from. -/
def Interaction.perform (s : Bus σ × Supply) : Interaction → Bus σ × Supply
  | .callBlocking o message context =>
      let x := Engine.callBlocking env o message context s.1 s.2
      (x.bus, x.supply)
  | .sendOneWay o message context =>
      let x := Engine.sendOneWay env o message context s.1 s.2
      (x.bus, x.supply)
  | .dispatchInbound role scope e =>
      let x := Engine.dispatchInbound env role scope e s.1 s.2
      (x.bus, x.supply)
  | .completeResponse e =>
      let x := Engine.completeResponse env e s.1 s.2
      (x.bus, x.supply)

/-- The bus after a list of interactions. -/
def run : List Interaction → Bus σ × Supply → Bus σ × Supply
  | [], s => s
  | i :: is, s => run is (i.perform env s)

/-- The command that an interaction executes, if it executes one, and where identifiers come from
at that moment. -/
def Interaction.command (s : Bus σ × Supply) : Interaction → Option (Command × Supply)
  | .callBlocking o message context =>
      let (e, supply) := newExchange o context message s.2
      some (prepare env (Variant.ofOperation o true) .sender .request e, supply)
  | .sendOneWay o message context =>
      let (e, supply) := newExchange o context message s.2
      some (prepare env (Variant.ofOperation o false) .sender .request e, supply)
  | .dispatchInbound role scope e =>
      some (prepare env (Variant.ofOperation (operationOf env e) false) role scope e, s.2)
  | .completeResponse e =>
      if s.1.store.contains e.messageId then
        some (prepare env (Variant.ofOperation (operationOf env e) false) .sender .response e, s.2)
      else none

/-- An interaction does to the bus what its command does. -/
theorem Interaction.perform_eq (i : Interaction) (s : Bus σ × Supply) :
    i.perform env s =
      match i.command env s with
      | none => s
      | some (c, supply) =>
          ((c.execute env s.1 supply).bus, (c.execute env s.1 supply).supply) := by
  cases i with
  | callBlocking o message context => rfl
  | sendOneWay o message context => rfl
  | dispatchInbound role scope e => rfl
  | completeResponse e =>
      cases h : s.1.store.contains e.messageId with
      | true =>
          simp only [perform, command, h, if_true]
          rw [completeResponse_of_pending env h]
          rfl
      | false =>
          obtain ⟨-, -, hbus, hsupply⟩ := completeResponse_of_not_pending env h s.2
          simp only [perform, command, h, Bool.false_eq_true, if_false, hbus, hsupply]

/-- An interaction lets go of what is kept under the identifier: it executes a command that
does. -/
inductive Interaction.LetsGo (id : Uuid) (s : Bus σ × Supply) (i : Interaction) : Prop where
  | command (c : Command) (supply : Supply) (hi : i.command env s = some (c, supply)) (role : Role)
      (scope : Scope) (e : Exchange) (hc : c.ready = .ok (role, scope, e)) (hid : e.messageId = id)
      (hgo : c.LetsGo e (c.execute env s.1 supply) role scope) : LetsGo id s i

/-- None of the interactions lets go of what is kept under the identifier. -/
def Spared (id : Uuid) : List Interaction → Bus σ × Supply → Prop
  | [], _ => True
  | i :: is, s => ¬ i.LetsGo env id s ∧ Spared id is (i.perform env s)

/-! ## What interactions keep -/

section KeepMessageIds

variable {env} (hkeep : env.parties.KeepMessageIds) {id : Uuid}

include hkeep

/-- What is kept stays, unless the interaction lets it go. -/
theorem Interaction.contains_perform (i : Interaction) (s : Bus σ × Supply)
    (hbefore : s.1.store.contains id = true) (hno : ¬ i.LetsGo env id s) :
    (i.perform env s).1.store.contains id = true := by
  rw [i.perform_eq]
  cases hi : i.command env s with
  | none => exact hbefore
  | some p =>
      obtain ⟨c, supply⟩ := p
      have hc : ∃ role scope e, c.ready = .ok (role, scope, e) := by
        cases i with
        | completeResponse e =>
            simp only [command] at hi
            split at hi
            · cases hi
              exact ⟨_, _, _, rfl⟩
            · cases hi
        | _ => cases hi; exact ⟨_, _, _, rfl⟩
      obtain ⟨role, scope, e, hc⟩ := hc
      exact Command.contains_execute hkeep hc s.1 supply hbefore fun hid hgo =>
        hno (.command c supply hi role scope e hc hid hgo)

/-- What the interaction lets go is gone. -/
theorem Interaction.not_contains_perform (i : Interaction) (s : Bus σ × Supply)
    (hgo : i.LetsGo env id s) : (i.perform env s).1.store.contains id = false := by
  obtain ⟨c, supply, hi, role, scope, e, hc, hid, hgo⟩ := hgo
  rw [i.perform_eq, hi, ← hid]
  exact Command.not_contains_execute hkeep hc s.1 supply hgo

/-- What is kept stays through a run that lets none of it go. -/
theorem contains_run (is : List Interaction) (s : Bus σ × Supply)
    (hbefore : s.1.store.contains id = true) (hspared : Spared env id is s) :
    (run env is s).1.store.contains id = true := by
  induction is generalizing s with
  | nil => exact hbefore
  | cons i is ih =>
      -- one interaction keeps it, and the others go on from there
      obtain ⟨hno, hrest⟩ := hspared
      exact ih _ (i.contains_perform hkeep s hbefore hno) hrest

/-- A request whose response comes later is kept when it has been sent. -/
theorem contains_sendOneWay {o : Operation} (ho : o.pattern = .inOut) (message : Message)
    (context : CallContext) (bus : Bus σ) (supply : Supply)
    (hsent : (sendOneWay env o message context bus supply).result = .ok id) :
    (sendOneWay env o message context bus supply).bus.store.contains id = true := by
  have hv : Variant.ofOperation o false = .requestResponse false :=
    ofOperation_eq_iff.mpr ⟨ho, rfl⟩
  obtain ⟨x, hcourse, -, hstore, hfailure⟩ := Command.execute_sendCourse env hkeep
    (c := prepare env (Variant.ofOperation o false) .sender .request
      (newExchange o context message supply).1) rfl hv bus (newExchange o context message supply).2
  -- there is an identifier to return only if the request did not fail
  obtain ⟨hnone, rfl⟩ := failure_of_sendOneWay_ok env hsent
  have hok : Command.failureOf x.1 = none :=
    (Option.or_eq_none_iff.mp (hfailure.symm.trans hnone)).1
  have hkept : x.2.bus.store.contains context.messageId = true := by
    cases hcourse with
    | rejected e hx => rw [hx] at hok; cases hok
    | unsent e err hx => rw [hx] at hok; cases hok
    | sent e _ _ hkept => exact hkept
  exact (congrArg (·.contains context.messageId) hstore).trans hkept

end KeepMessageIds

/-- A request whose response comes later is pending, once it has been sent, until it is let go.
As long as no interaction lets it go, it is kept, and a response to it is taken through the leg
of the sender; after one that lets it go, a response is not accepted any more. -/
theorem pending_until_let_go (hkeep : env.parties.KeepMessageIds) {o : Operation}
    (ho : o.pattern = .inOut) (message : Message) (context : CallContext) (bus : Bus σ)
    (supply : Supply) {id : Uuid}
    (hsent : (sendOneWay env o message context bus supply).result = .ok id)
    (is : List Interaction) :
    let x := sendOneWay env o message context bus supply
    let s := run env is (x.bus, x.supply)
    Spared env id is (x.bus, x.supply) →
      s.1.store.contains id = true ∧
      (∀ e : Exchange, e.messageId = id →
        completeResponse env e s.1 s.2 = dispatchInbound env .sender .response e s.1 s.2) ∧
      ∀ i : Interaction, i.LetsGo env id s →
        let s' := i.perform env s
        s'.1.store.contains id = false ∧
        ∀ e : Exchange, e.messageId = id →
          (completeResponse env e s'.1 s'.2).result = .error (notPending e) := by
  intro x s hspared
  have hkept : s.1.store.contains id = true :=
    contains_run hkeep is (x.bus, x.supply)
      (contains_sendOneWay hkeep ho message context bus supply hsent) hspared
  refine ⟨hkept, ?_, ?_⟩
  · rintro e rfl
    exact completeResponse_of_pending env hkept s.2
  · intro i hgo s'
    have hgone : s'.1.store.contains id = false := i.not_contains_perform hkeep s hgo
    refine ⟨hgone, ?_⟩
    rintro e rfl
    exact (completeResponse_of_not_pending env hgone s'.2).result

/-! ## Rehearsals -/

section Books

open Rehearsal

theorem messageId_change (change : Change) (e : Exchange) :
    (change.apply e).messageId = e.messageId := by
  obtain ⟨input, output, fault, target, serviceId, operation, failure, status⟩ := change
  cases failure <;> rfl

/-- Parties that follow scripts leave the identifiers of messages as they are. -/
theorem keepMessageIds_parties (handlers : Dict HandlerScript) (policy : PolicyScript) :
    (parties handlers policy).KeepMessageIds where
  enforce e role agreed scope s := by
    show (policy.enforce e role agreed scope).exchange.messageId = e.messageId
    cases policy with
    | permissive => rfl
    | headers =>
        simp only [PolicyScript.enforce, Policy.byHeaders]
        split
        · split <;> rfl
        · rfl
    | rules append change objections =>
        refine (messageId_change change _).trans ?_
        cases append <;> rfl
  sendSync e limit s := by
    show ((cue s.sendSync).1.answer e limit).exchange.messageId = e.messageId
    simp only [Outcome.answer]
    split
    · refine (messageId_change _ _).trans ?_
      cases (cue s.sendSync).1.echo <;> rfl
    · rfl

/-- The shop and the stock on one bus. -/
def market : Bus Channel :=
  { parties := {}
    registry := (Table.empty.insert ⟨.sender, "orders", "place"⟩ "shop").insert
      ⟨.receiver, "orders", "place"⟩ "stock" }

/-- An operation that orders a book. -/
def place : Operation := { serviceId := "orders", name := "place", pattern := .inOut }

/-- The order of the shop, when it has been sent. -/
def placed : Execution Channel Uuid :=
  sendOneWay (environment ∅ .permissive) place { body := "book" } bookOrder.context market .counting

/-- The exchange of this order. -/
def placedOrder : Exchange :=
  (newExchange place bookOrder.context { body := "book" } .counting).1

/-- The exchange with the price. -/
def pricedOrder : Exchange := { placedOrder with output := some { body := "12" } }

/-- While the stock takes the order, it stays pending, and the shop takes the price. -/
theorem pending_until_let_go_placed :
    let env := environment ∅ .permissive
    let is : List Interaction := [.dispatchInbound .receiver .request placedOrder]
    let s := run env is (placed.bus, placed.supply)
    placed.result = .ok default ∧ Spared env default is (placed.bus, placed.supply) ∧
      s.1.store.contains default = true ∧
      completeResponse env pricedOrder s.1 s.2 =
        dispatchInbound env .sender .response pricedOrder s.1 s.2 := by
  intro env is s
  have hsent : placed.result = .ok default := rfl
  have hspared : Spared env default is (placed.bus, placed.supply) := by
    refine ⟨?_, trivial⟩
    rintro ⟨c, supply, hi, role, scope, e, hc, -, hgo⟩
    cases hi
    cases hc
    cases hgo with
    | untaken sync hv ruling hp hu =>
        cases hp
        rcases hu with hviolation | ⟨-, hfailed⟩
        · exact hviolation rfl
        · exact hfailed rfl
  obtain ⟨hkept, htaken, -⟩ := pending_until_let_go env (keepMessageIds_parties ∅ .permissive) rfl
    { body := "book" } bookOrder.context market .counting hsent is hspared
  exact ⟨hsent, hspared, hkept, htaken pricedOrder rfl⟩

/-- When the stock has also given the price, the order is no longer pending, although the shop has
not taken the price yet: it is not accepted. -/
theorem pending_lost :
    let env := environment ∅ .permissive
    let s := run env
      [.dispatchInbound .receiver .request placedOrder,
        .dispatchInbound .receiver .response pricedOrder] (placed.bus, placed.supply)
    placed.result = .ok pricedOrder.messageId ∧
      s.1.store.contains pricedOrder.messageId = false ∧
      (completeResponse env pricedOrder s.1 s.2).result = .error (notPending pricedOrder) :=
  ⟨rfl, rfl, rfl⟩

end Books

end ServiceBus.Engine
