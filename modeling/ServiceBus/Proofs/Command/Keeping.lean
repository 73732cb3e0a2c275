import ServiceBus.Proofs.Command.Moves
import ServiceBus.Proofs.Command.Receipt

set_option autoImplicit false

/-! # What commands keep and let go

A command does something to the store only under the identifier of the message that its exchange
is about. What is kept there stays unless the command lets it go (`LetsGo`), and then it is gone:
`contains_execute` and `not_contains_execute` are exact together. -/

namespace ServiceBus.Command

open Work

variable {σ : Type} (env : Environment σ) {c : Command} {role : Role} {scope : Scope}
  {e : Exchange}

/-- The execution `x` of the command for the exchange `e` lets go of what is kept about the
message of this exchange. -/
inductive LetsGo (c : Command) (e : Exchange) (x : Execution σ Unit) : Role → Scope → Prop where
  /-- A sender's request, which the transport does not take. -/
  | unsent (hv : c.variant = .requestResponse false) (e' : Exchange) (err : BusError)
      (hs : .send e' (some err) ∈ callsOf [.send] x.trace) : LetsGo c e x .sender .request
  /-- A response that comes in. -/
  | answered (hv : c.variant = .requestResponse false) : LetsGo c e x .sender .response
  /-- A response that leaves. -/
  | responded (sync : Bool) (hv : c.variant = .requestResponse sync) :
      LetsGo c e x .receiver .response
  /-- A receiver's request that the policy rejects, or whose message is not delivered. -/
  | untaken (sync : Bool) (hv : c.variant = .requestResponse sync) (ruling : Ruling)
      (hp : callsOf [.policy] x.trace = [.policy e .receiver .request ruling])
      (hu : Untaken ruling (x.command.failure ≠ none)) : LetsGo c e x .receiver .request

section Ready

variable (h : c.ready = .ok (role, scope, e)) (bus : Bus σ) (supply : Supply)

include h

/-- A command does nothing to what is kept about other messages. -/
theorem find?_execute_of_ne (hkeep : env.parties.KeepMessageIds) {id : Uuid}
    (hne : id ≠ e.messageId) :
    (c.execute env bus supply).bus.store.find? id = bus.store.find? id := by
  have hmoves := moves_course env c role scope (c.opening role scope e bus supply)
  rw [execute_bus env h]
  exact Leg.find?_of_moves hkeep hmoves hne

/-- Without the deeds of keeping and letting go, a command does nothing to the store. -/
theorem store_execute (hp : .persist ∉ deeds c.variant role scope)
    (hr : .release ∉ deeds c.variant role scope) :
    (c.execute env bus supply).bus.store = bus.store := by
  have hmoves := moves_course env c role scope (c.opening role scope e bus supply)
  rw [execute_bus env h]
  exact Leg.store_of_moves hmoves hp hr

/-- Without these deeds, what is kept is the same at every call of a command. -/
theorem entry_store_execute (hp : .persist ∉ deeds c.variant role scope)
    (hr : .release ∉ deeds c.variant role scope) :
    ∀ entry ∈ (c.execute env bus supply).trace, entry.store = bus.store := by
  have hmoves := moves_course env c role scope (c.opening role scope e bus supply)
  have hopen : (c.opening role scope e bus supply).Steady bus.store := ⟨rfl, by rintro _ ⟨⟩⟩
  rw [execute_trace env h]
  exact (Leg.steady_of_moves hmoves hp hr hopen).before

/-- Without the deed of keeping, nothing comes to be kept. -/
theorem not_contains_execute_of_not_persist {id : Uuid} (hp : .persist ∉ deeds c.variant role scope)
    (hbefore : bus.store.contains id = false) :
    (c.execute env bus supply).bus.store.contains id = false := by
  have hmoves := moves_course env c role scope (c.opening role scope e bus supply)
  rw [execute_bus env h]
  exact Leg.not_contains_of_moves hmoves hp hbefore

end Ready

/-! ## A sender's response -/

/-- Only a response that the variant expects, and that nobody waits for, lets the request go. -/
theorem execute_store_response (h : c.ready = .ok (.sender, .response, e)) (bus : Bus σ)
    (supply : Supply) :
    (c.execute env bus supply).bus.store =
      if c.variant = .requestResponse false then bus.store.erase e.messageId else bus.store := by
  split
  · next hv =>
      rw [execute_store env h, work_response env hv, store_takeResponse]
      rfl
  · next hv =>
      have hdeeds : .persist ∉ deeds c.variant .sender .response ∧
          .release ∉ deeds c.variant .sender .response := by
        cases hvariant : c.variant with
        | oneWay => decide
        | callback => decide
        | requestResponse sync =>
            cases sync with
            | true => decide
            | false => exact absurd hvariant hv
      exact store_execute env h bus supply hdeeds.1 hdeeds.2

/-! ## A sender's request -/

theorem execute_sendCourse (hkeep : env.parties.KeepMessageIds)
    (h : c.ready = .ok (.sender, .request, e)) (hv : c.variant = .requestResponse false)
    (bus : Bus σ) (supply : Supply) :
    ∃ x, SendCourse (c.opening .sender .request e bus supply) x ∧
      callsOf [.send] (c.execute env bus supply).trace = callsOf [.send] x.2.trace ∧
      (c.execute env bus supply).bus.store = x.2.bus.store ∧
      (c.execute env bus supply).command.failure = (failureOf x.1).or x.2.failure := by
  refine ⟨_, sendRequest_course env hkeep rfl, ?_, ?_, ?_⟩
  · rw [callsOf_execute env h bus supply (by decide) (by decide), hv]
    rfl
  · rw [execute_store env h, hv]
    rfl
  · rw [execute_failure env h, course_eq_settle, settle_failure, hv]
    rfl

/-! ## What stays and what goes -/

variable {env}

section Ready

variable (hkeep : env.parties.KeepMessageIds) (h : c.ready = .ok (role, scope, e)) (bus : Bus σ)
  (supply : Supply)

include hkeep h

/-- What is kept about the message of its exchange stays, unless the command lets it go. -/
theorem contains_execute_self (hbefore : bus.store.contains e.messageId = true)
    (hno : ¬ LetsGo c e (c.execute env bus supply) role scope) :
    (c.execute env bus supply).bus.store.contains e.messageId = true := by
  -- most legs do nothing to the store
  have hsame : .persist ∉ deeds c.variant role scope → .release ∉ deeds c.variant role scope →
      (c.execute env bus supply).bus.store.contains e.messageId = true := by
    intro hp hr
    rw [store_execute env h bus supply hp hr]
    exact hbefore
  cases hv : c.variant with
  | oneWay => cases role <;> cases scope <;> exact hsame (by rw [hv]; decide) (by rw [hv]; decide)
  | callback => cases role <;> cases scope <;> exact hsame (by rw [hv]; decide) (by rw [hv]; decide)
  | requestResponse sync =>
      cases role with
      | sender =>
          cases sync with
          | true => cases scope <;> exact hsame (by rw [hv]; decide) (by rw [hv]; decide)
          | false =>
              cases scope with
              | response => exact absurd (.answered hv) hno
              | request =>
                  obtain ⟨x, hcourse, hcalls, hstore, -⟩ :=
                    execute_sendCourse env hkeep h hv bus supply
                  rw [hstore]
                  cases hcourse with
                  | rejected _ _ _ hsame => rw [hsame]; exact hbefore
                  | sent _ _ _ hkept => exact hkept
                  | unsent e' err _ hs _ =>
                      refine absurd (.unsent hv e' err ?_) hno
                      rw [hcalls, hs]
                      exact List.mem_singleton_self _
      | receiver =>
          cases scope with
          | response => exact absurd (.responded sync hv) hno
          | request =>
              have hkept : ∀ time, (Store.persist bus.store e time).contains e.messageId = true :=
                fun _ => Table.contains_insert_self _ _ _
              cases execute_receipt env h hv (fun _ _ => hkeep.enforce _ _ _ _ _) bus supply with
              | unasked _ _ _ hsame => rw [hsame]; exact hbefore
              | emptied _ _ _ _ _ _ time hstore => rw [hstore]; exact hkept time
              | taken _ _ _ _ _ _ _ time hstore => rw [hstore]; exact hkept time
              | untaken ruling hp hr hf =>
                  exact absurd (.untaken sync hv ruling hp (hr.imp_right fun hi => ⟨hi, hf⟩)) hno

/-- What is kept stays, unless the command lets it go. -/
theorem contains_execute {id : Uuid} (hbefore : bus.store.contains id = true)
    (hno : e.messageId = id → ¬ LetsGo c e (c.execute env bus supply) role scope) :
    (c.execute env bus supply).bus.store.contains id = true := by
  by_cases hid : e.messageId = id
  · subst hid
    exact contains_execute_self hkeep h bus supply hbefore (hno rfl)
  · have hfind : (c.execute env bus supply).bus.store.find? id = bus.store.find? id :=
      find?_execute_of_ne env h bus supply hkeep fun hne => hid hne.symm
    rw [Table.contains, hfind]
    exact hbefore

/-- What the command lets go is gone. -/
theorem not_contains_execute (hgo : LetsGo c e (c.execute env bus supply) role scope) :
    (c.execute env bus supply).bus.store.contains e.messageId = false := by
  cases hgo with
  | unsent hv e' err hs =>
      obtain ⟨x, hcourse, hcalls, hstore, -⟩ := execute_sendCourse env hkeep h hv bus supply
      rw [hcalls] at hs
      rw [hstore]
      cases hcourse with
      | rejected _ _ hnone => rw [hnone] at hs; cases hs
      | sent _ _ hsent => rw [hsent, List.mem_singleton] at hs; cases hs
      | unsent _ _ _ _ hgone => exact hgone
  | answered hv =>
      rw [execute_store_response env h, if_pos hv]
      exact Table.contains_erase_self _ _
  | responded sync hv =>
      have hgone : (c.execute env bus supply).bus.store = bus.store.erase e.messageId := by
        rw [execute_store env h, hv]
        exact store_outgoingResponse env sync
      rw [hgone]
      exact Table.contains_erase_self _ _
  | untaken sync hv ruling hp hu =>
      cases execute_receipt env h hv (fun _ _ => hkeep.enforce _ _ _ _ _) bus supply with
      | unasked hp' => rw [hp'] at hp; cases hp
      | untaken _ _ _ _ _ _ hstore => rw [hstore]; exact Table.contains_erase_self _ _
      | emptied e' hp' hi =>
          rw [hp'] at hp
          cases hp
          exact absurd hu (by simp [Untaken, hi])
      | taken _ e' hp' _ hf =>
          rw [hp'] at hp
          cases hp
          exact absurd hu (by simp [Untaken, hf])

end Ready

end ServiceBus.Command
