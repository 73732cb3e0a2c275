import ServiceBus.Proofs.Command.Related
import ServiceBus.Proofs.Leg.Alike

set_option autoImplicit false

/-! # Executions that differ in how signals are taken

An execution comes to the same in environments that behave alike (`execute_alike`): with the same
result, the same command, the same exchanges kept, and the same calls, up to the failures of the
transport to take the signal of the leg. -/

namespace ServiceBus

variable {σ σ' : Type}

/-- What commands share is the same but for the parties, which are related. -/
structure Bus.Alike (R : σ → σ' → Prop) (bus : Bus σ) (bus' : Bus σ') : Prop where
  parties : R bus.parties bus'.parties
  store : bus'.store = bus.store
  registry : bus'.registry = bus.registry
  cache : bus'.cache = bus.cache

/-- The executions come to the same, with the same calls up to the failures to take signals. -/
structure Execution.Alike {α : Type} (R : σ → σ' → Prop) (x : Execution σ α)
    (x' : Execution σ' α) : Prop where
  result : x'.result = x.result
  command : x'.command = x.command
  bus : x.bus.Alike R x'.bus
  supply : x'.supply = x.supply
  trace : unanswered x'.trace = unanswered x.trace

/-! ## Legs that are alike -/

namespace Leg.Alike

variable {R : σ → σ' → Prop} {l : Leg σ} {l' : Leg σ'} (h : Leg.Alike R l l')

include h

theorem bus : l.bus.Alike R l'.bus := by
  obtain ⟨s, trace, hs, -⟩ := h
  exact ⟨hs, rfl, rfl, rfl⟩

theorem supply : l'.supply = l.supply := by
  obtain ⟨s, trace, -, -⟩ := h
  rfl

theorem trace : unanswered l'.trace = unanswered l.trace := by
  obtain ⟨s, trace, -, ht⟩ := h
  exact ht

theorem afterLeg (c : Command) (began ended : Timestamp) :
    c.afterLeg l' began ended = c.afterLeg l began ended := by
  obtain ⟨s, trace, -, -⟩ := h
  rfl

end Leg.Alike

/-! ## Executions that are alike -/

namespace Command

open Work

section Alike

variable {R : σ → σ' → Prop} {env : Environment σ} {env' : Environment σ'}
  (h : env.Alike R env')

include h

omit h in
theorem alike_opening (c : Command) (role : Role) (scope : Scope) (e : Exchange) {bus : Bus σ}
    {bus' : Bus σ'} (hb : bus.Alike R bus') (supply : Supply) :
    Leg.Alike R (c.opening role scope e bus supply) (c.opening role scope e bus' supply) := by
  have hbus : bus' = { parties := bus'.parties, store := bus.store, registry := bus.registry
                       cache := bus.cache } := by
    rw [← hb.store, ← hb.registry, ← hb.cache]
  rw [hbus]
  exact .intro bus'.parties [] hb.parties rfl

/-- An execution does not depend on whether the transport takes the signals. -/
theorem execute_alike (c : Command) {bus : Bus σ} {bus' : Bus σ'} (hb : bus.Alike R bus')
    (supply : Supply) :
    (c.execute env bus supply).Alike R (c.execute env' bus' supply) := by
  cases hready : c.ready with
  | error e =>
      rw [execute_of_not_ready env hready, execute_of_not_ready env' hready]
      exact ⟨rfl, rfl, hb, rfl, rfl⟩
  | ok ready =>
      obtain ⟨role, scope, e⟩ := ready
      have hopening := alike_opening c role scope e hb supply
      obtain ⟨-, hwork⟩ := related_work h.matched c.variant role scope _ _ hopening
      obtain ⟨hresult, hcourse⟩ := related_course h.matched c role scope _ _ hopening
      constructor
      · rw [execute_result env hready, execute_result env' hready, hresult]
      · rw [execute_command env hready, execute_command env' hready, hwork.supply,
          hcourse.afterLeg]
      · rw [execute_bus env hready, execute_bus env' hready]
        exact hcourse.bus
      · rw [execute_supply env hready, execute_supply env' hready, hcourse.supply]
      · rw [execute_trace env hready, execute_trace env' hready, hcourse.trace]

end Alike

end Command

end ServiceBus
