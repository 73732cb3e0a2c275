import ServiceBus.Proofs.Command.Execution
import ServiceBus.Proofs.Leg.Moves

set_option autoImplicit false

/-! # What a command may do to the exchange and to the store

The deeds of a command are a table (`deeds`), and its course is a run of moves with these deeds
(`moves_course`). Only requests and responses that belong together in time do something to the
store: a request whose response comes later is kept, and one of the legs of that response lets it
go.

Except on the leg of a caller that waits, the policy is asked about a leg as what the command
began it as (`asked_course`). -/

namespace ServiceBus.Command

open Work

variable {σ : Type} (env : Environment σ)

/-- The deeds of the work that a variant, a role and a scope select. -/
def deeds (variant : Variant) (role : Role) (scope : Scope) : List Deed :=
  match role, scope, variant with
  | .sender, .request, .requestResponse false => [.quiet, .judge, .persist, .release]
  | .sender, .request, .requestResponse true => [.quiet, .judge, .transfer, .respond]
  | .sender, .request, _ => [.quiet, .judge, .transfer]
  | .sender, .response, .requestResponse false => [.quiet, .judge, .release]
  | .sender, .response, .requestResponse true => [.quiet, .judge]
  | .sender, .response, _ => [.quiet]
  | .receiver, .request, variant => requestDeeds variant
  | .receiver, .response, .requestResponse _ => [.quiet, .judge, .transfer, .release]
  | .receiver, .response, _ => [.quiet, .judge, .transfer]

theorem moves_outgoingRequest (variant : Variant) :
    Runs (Leg.Move env) (deeds variant .sender .request) (outgoingRequest env variant) := by
  cases variant with
  | oneWay => exact moves_sendOneWay env
  | callback => exact moves_sendOneWay env
  | requestResponse sync =>
      cases sync with
      | false => exact moves_sendRequest env
      | true => exact moves_callAndWait env

theorem moves_incomingResponse (variant : Variant) :
    Runs (Leg.Move env) (deeds variant .sender .response) (incomingResponse env variant) := by
  cases variant with
  | oneWay => exact (does_takeFault env).moves env (by decide) (by decide)
  | callback => exact (does_takeFault env).moves env (by decide) (by decide)
  | requestResponse sync =>
      cases sync with
      | false => exact moves_takeResponse env false (by decide) (by decide)
      | true => exact moves_takeResponse env true (by decide) (by decide)

theorem moves_outgoingResponse (variant : Variant) :
    Runs (Leg.Move env) (deeds variant .receiver .response) (outgoingResponse env variant) := by
  cases variant with
  | oneWay => exact moves_sendResponse env
  | callback => exact moves_sendResponse env
  | requestResponse sync =>
      refine (moves_release env (by simp [deeds])).bind fun _ => ?_
      exact (moves_sendResponse env).mono (by simp [deeds])

theorem moves_work (variant : Variant) (role : Role) (scope : Scope) :
    Runs (Leg.Move env) (deeds variant role scope) (work env variant role scope) := by
  cases role with
  | sender =>
      cases scope with
      | request => exact moves_outgoingRequest env variant
      | response => exact moves_incomingResponse env variant
  | receiver =>
      cases scope with
      | response => exact moves_outgoingResponse env variant
      | request =>
          rw [deeds]
          have hquiet := quiet_mem_requestDeeds variant
          refine (does_resolveHandler.moves env (by decide) hquiet).bind fun handler => ?_
          cases handler with
          | some handler => exact moves_incomingRequest env variant
          | none => exact Runs.exchange.bind fun e => .fail _

theorem quiet_mem_deeds (variant : Variant) (role : Role) (scope : Scope) :
    .quiet ∈ deeds variant role scope := by
  cases variant with
  | requestResponse sync => cases sync <;> cases role <;> cases scope <;> exact List.mem_cons_self
  | _ => cases role <;> cases scope <;> exact List.mem_cons_self

/-- Only requests whose response comes later are kept. -/
theorem request_of_persist {variant : Variant} {role : Role} {scope : Scope}
    (h : .persist ∈ deeds variant role scope) :
    scope = .request ∧
      ∃ sync, variant = .requestResponse sync ∧ (role = .sender → sync = false) := by
  cases variant with
  | requestResponse sync => cases sync <;> cases role <;> cases scope <;> simp_all [deeds]
  | _ => cases role <;> cases scope <;> simp_all [deeds, requestDeeds]

theorem moves_course (c : Command) (role : Role) (scope : Scope) :
    Runs (Leg.Move env) (deeds c.variant role scope) (c.course env role scope) := by
  refine (moves_work env c.variant role scope).attempt.bind fun result => ?_
  exact (does_settle env c.rethrow role result).moves env (by decide) (quiet_mem_deeds _ _ _)

/-- On a leg that does not move on to the response, the policy is asked about the leg as what it
is. -/
theorem asked_course (c : Command) (role : Role) (scope : Scope) (e : Exchange) (bus : Bus σ)
    (supply : Supply) (h : .respond ∉ deeds c.variant role scope) :
    (c.course env role scope (c.opening role scope e bus supply)).2.AskedAs role scope := by
  have hopen : (c.opening role scope e bus supply).AskedAs role scope :=
    ⟨rfl, rfl, fun _ _ _ _ hmem => absurd hmem List.not_mem_nil⟩
  exact Leg.asked_of_moves (moves_course env c role scope _) h hopen

end ServiceBus.Command
