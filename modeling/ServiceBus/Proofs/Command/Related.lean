import ServiceBus.Proofs.Command.Execution
import ServiceBus.Proofs.Leg.Related

set_option autoImplicit false

/-! # Courses on related legs

When the steps that all work is made of keep legs related, so does the course of a command
(`related_course`). -/

namespace ServiceBus.Command

open Work

variable {σ σ' : Type} {Rel : Leg σ → Leg σ' → Prop} {env : Environment σ} {env' : Environment σ'}
  (h : env.Matched Rel env')

include h

theorem related_work (variant : Variant) (role : Role) (scope : Scope) :
    Related Rel (work env variant role scope) (work env' variant role scope) := by
  cases role with
  | sender =>
      cases scope with
      | request => exact related_outgoingRequest h variant
      | response => exact related_incomingResponse h variant
  | receiver =>
      cases scope with
      | response => exact related_outgoingResponse h variant
      | request =>
          refine h.resolveHandler.bind fun handler => ?_
          cases handler with
          | some handler => exact related_incomingRequest h variant
          | none => exact related_bind_exchange h fun e => .fail _

/-- Related legs are closed or not closed together. -/
theorem related_unless_closed {x : Work σ Unit} {x' : Work σ' Unit} (hx : Related Rel x x') :
    Related Rel (Work.leg >>= fun l => if l.closed then pure () else x)
      (Work.leg >>= fun l => if l.closed then pure () else x') := by
  refine .bind_leg fun m m' hm => ?_
  rw [h.closed hm]
  split
  · exact .pure ()
  · exact hx

theorem related_close (result : Except BusError Unit) :
    Related Rel (close env result) (close env' result) := by
  unfold close
  cases result with
  | ok _ => exact related_unless_closed h (related_notify h .finished)
  | error e =>
      exact (h.recordFailure e).bind fun _ => related_unless_closed h (related_notifyFailure h e)

theorem related_conclude (rethrow : Bool) (role : Role) (result : Except BusError Unit) :
    Related Rel (conclude env rethrow role result) (conclude env' rethrow role result) := by
  unfold conclude
  cases result with
  | ok _ => exact .pure ()
  | error e =>
      refine .bind_leg fun m m' hm => ?_
      have hreturn : Related Rel (if rethrow = true then Work.fail e else pure () : Work σ Unit)
          (if rethrow = true then Work.fail e else pure ()) := by
        split
        · exact .fail e
        · exact .pure ()
      rw [h.scope hm]
      cases role with
      | sender =>
          cases m.scope with
          | request => exact hreturn
          | response => exact .fail e
      | receiver =>
          cases m.scope with
          | request => exact h.refuse e
          | response => exact hreturn

theorem related_settle (rethrow : Bool) (role : Role) (result : Except BusError Unit) :
    Related Rel (settle env rethrow role result) (settle env' rethrow role result) := by
  have hrest : Related Rel
      (attempt (close env result) >>= fun _ => conclude env rethrow role result)
      (attempt (close env' result) >>= fun _ => conclude env' rethrow role result) :=
    (related_close h result).attempt.bind fun _ => related_conclude h rethrow role result
  exact fun l l' hl => hrest _ _ (h.now hl)

theorem related_course (c : Command) (role : Role) (scope : Scope) :
    Related Rel (c.course env role scope) (c.course env' role scope) :=
  (related_work h c.variant role scope).attempt.bind fun result =>
    related_settle h c.rethrow role result

end ServiceBus.Command
