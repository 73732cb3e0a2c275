import ServiceBus.Proofs.Command.Execution
import ServiceBus.Proofs.Leg.IncomingRequest
import ServiceBus.Proofs.Leg.Outgoing

set_option autoImplicit false

/-! # How executions end for the transport

An execution signals the end of its leg to the transport at most once, whatever the leg
(`course_signalsCounted`). A receiver's request is always signalled, and never fails for its
caller. A sender's response is acknowledged if it is answered, and is otherwise not signalled at
all. The command is marked as failed exactly if a failure has been recorded (`execute_failed`). -/

namespace ServiceBus.Command

open Work

variable {σ : Type} (env : Environment σ) {c : Command} {e : Exchange}

/-! ## At most one signal -/

/-- The acts of the work of a command. -/
def workActs : List Act := requestActs ++ sendingActs ++ callActs

theorem does_work_request (variant : Variant) :
    Does requestActs (work env variant .receiver .request) := by
  refine (does_resolveHandler.mono (by decide)).bind fun handler => ?_
  cases handler with
  | some handler => exact does_incomingRequest env variant
  | none => exact Does.exchange.bind fun e => .fail _

theorem does_work (variant : Variant) (role : Role) (scope : Scope) :
    Does workActs (work env variant role scope) := by
  cases role with
  | sender =>
      cases scope with
      | request => exact (does_outgoingRequest env variant).mono (by decide)
      | response => exact (does_incomingResponse env variant).mono (by decide)
  | receiver =>
      cases scope with
      | request => exact (does_work_request env variant).mono (by decide)
      | response => exact (does_outgoingResponse env variant).mono (by decide)

/-- A course is a run of steps from its beginning to its end. -/
theorem does_course (c : Command) (role : Role) (scope : Scope) :
    Does (workActs ++ settleActs) (c.course env role scope) := by
  refine ((does_work env c.variant role scope).mono (by decide)).attempt.bind fun result => ?_
  exact (does_settle env c.rethrow role result).mono (by decide)

/-- The signals of an execution are as many as the mark of its last leg tells: one or none. -/
theorem course_signalsCounted (c : Command) (role : Role) (scope : Scope) (e : Exchange)
    (bus : Bus σ) (supply : Supply) :
    (c.course env role scope (c.opening role scope e bus supply)).2.SignalsCounted := by
  have hopen : (c.opening role scope e bus supply).SignalsCounted := rfl
  exact (does_course env c role scope _).signalsCounted hopen

/-! ## Recorded failures -/

/-- An execution marks the command as failed if it has recorded a failure, and only then. -/
theorem execute_failed {role : Role} {scope : Scope} (h : c.ready = .ok (role, scope, e))
    (bus : Bus σ) (supply : Supply) :
    (c.execute env bus supply).command.failed =
      (c.execute env bus supply).command.failure.isSome := by
  have hopen : (c.opening role scope e bus supply).FailureMarked := rfl
  have hmarked := (does_course env c role scope _).failureMarked hopen
  rw [execute_command env h]
  exact hmarked

/-! ## Requests -/

/-- A request that nobody takes fails; any other is settled by its own leg. -/
theorem settles_work_request (variant : Variant) :
    Settles (work env variant .receiver .request) := by
  refine .bind_right fun handler => ?_
  cases handler with
  | some handler => exact settles_incomingRequest env variant
  | none => exact .bind_right fun e => .fail _

theorem course_request (c : Command) (e : Exchange) (bus : Bus σ) (supply : Supply) :
    let l := c.opening .receiver .request e bus supply
    (c.course env .receiver .request l).1 = .ok () ∧
      (c.course env .receiver .request l).2.signalled = true := by
  intro l
  have hwork := does_work_request env c.variant l
  have hscope : (work env c.variant .receiver .request l).2.scope = .request :=
    hwork.scope (by decide)
  exact settle_request env c.rethrow _ hscope (settles_work_request env c.variant l ())

/-- The transport gets one signal for a receiver's request. -/
theorem length_signals_request (h : c.ready = .ok (.receiver, .request, e)) (bus : Bus σ)
    (supply : Supply) : (callsOf signalKinds (c.execute env bus supply).trace).length = 1 := by
  have hsignalled := (course_request env c e bus supply).2
  have hcount := course_signalsCounted env c .receiver .request e bus supply
  unfold Leg.SignalsCounted at hcount
  rw [hsignalled] at hcount
  rw [execute_trace env h]
  exact hcount

/-- A receiver's request never fails for its caller, and the transport gets exactly one signal
for it. -/
theorem execute_receiver_request (h : c.ready = .ok (.receiver, .request, e)) (bus : Bus σ)
    (supply : Supply) :
    (c.execute env bus supply).result = .ok () ∧
      (callsOf signalKinds (c.execute env bus supply).trace).length = 1 := by
  have hresult := (course_request env c e bus supply).1
  rw [execute_result env h]
  exact ⟨hresult, length_signals_request env h bus supply⟩

/-- A callback command whose request comes without a message: the transport fails to take the
acknowledgement, and there is no other signal. -/
theorem execute_receiver_request_empty :
    let c : Command :=
      { variant := .callback, role := some .receiver, scope := some .request
        exchange := some Rehearsal.bareOrder, handler := some "stock" }
    let x := c.execute (Rehearsal.environment ∅ .permissive)
      { parties := { acknowledge := [some default] } } .counting
    x.result = .ok () ∧ (callsOf signalKinds x.trace).length = 1 :=
  execute_receiver_request (Rehearsal.environment ∅ .permissive) rfl _ _

/-! ## Responses -/

section Response

variable (c) (e) (bus : Bus σ) (supply : Supply)

theorem course_response_of_answered (h : e.answered = true) :
    let l := (c.course env .sender .response (c.opening .sender .response e bus supply)).2
    ∃ failure, callsOf signalKinds l.trace = [.acknowledge l.exchange failure] := by
  intro l
  obtain ⟨failure, hack⟩ := acknowledges_incomingResponse env
    (l := c.opening .sender .response e bus supply) rfl rfl h c.variant
  refine ⟨failure, ?_⟩
  rw [signals_course_sender, course_exchange]
  exact hack

theorem course_response_of_not_answered (h : e.answered = false) :
    let l := c.opening .sender .response e bus supply
    (c.course env .sender .response l).1 = .error (noMessage e .response) ∧
      callsOf signalKinds (c.course env .sender .response l).2.trace = [] := by
  intro l
  obtain ⟨m, hm, hx⟩ := incomingResponse_of_not_answered env (l := l) rfl h c.variant
  have hwork : work env c.variant .sender .response l = (.error (noMessage e .response), m) := hx
  constructor
  · rw [course_eq_settle, hwork, settle_response env c.rethrow _ (hm.scope (by decide))]
  · rw [signals_course_sender, hwork, hm.callsOf (by decide)]
    rfl

end Response

/-- A response makes a call, if only to notify that it says nothing. -/
theorem execute_response_trace_ne_nil (h : c.ready = .ok (.sender, .response, e)) (bus : Bus σ)
    (supply : Supply) : (c.execute env bus supply).trace ≠ [] := by
  rw [execute_trace env h]
  cases ha : e.answered with
  | true =>
      obtain ⟨failure, hack⟩ := course_response_of_answered env c e bus supply ha
      intro hnil
      rw [hnil] at hack
      cases hack
  | false =>
      obtain ⟨m, hm, hx⟩ := incomingResponse_of_not_answered env
        (l := c.opening .sender .response e bus supply) rfl ha c.variant
      have hwork : work env c.variant .sender .response (c.opening .sender .response e bus supply) =
          (.error (noMessage e .response), m) := hx
      rw [course_eq_settle, hwork, settle_eq, conclude_sender]
      exact close_trace_ne_nil env _ (hm.closed (by decide))

/-- A sender's response that is marked as failed or brings a message is acknowledged exactly
once, as the command leaves it, and never refused. One that is neither fails before its
acknowledgement, and the transport gets no signal for it. -/
theorem execute_sender_response (h : c.ready = .ok (.sender, .response, e)) (bus : Bus σ)
    (supply : Supply) :
    let x := c.execute env bus supply
    (e.answered = true → ∃ e' failure, x.command.exchange = some e' ∧
      callsOf signalKinds x.trace = [.acknowledge e' failure]) ∧
    (e.answered = false → x.result = .error (noMessage e .response) ∧
      callsOf signalKinds x.trace = []) := by
  intro x
  constructor
  · intro ha
    obtain ⟨failure, hack⟩ := course_response_of_answered env c e bus supply ha
    exact ⟨_, failure, execute_exchange env h bus supply, by rw [execute_trace env h, hack]⟩
  · intro ha
    rw [execute_result env h, execute_trace env h]
    exact course_response_of_not_answered env c e bus supply ha

/-- A one-way command whose answer nobody takes. -/
theorem execute_sender_response_book :
    let c : Command :=
      { variant := .oneWay, role := some .sender, scope := some .response
        exchange := some Rehearsal.bookOrder }
    let x := c.execute (Rehearsal.environment ∅ .permissive) { parties := {} } .counting
    Rehearsal.bookOrder.answered = true ∧
    ∃ e' failure, x.command.exchange = some e' ∧
      callsOf signalKinds x.trace = [.acknowledge e' failure] :=
  ⟨rfl, (execute_sender_response (Rehearsal.environment ∅ .permissive) rfl _ _).1 rfl⟩

/-- A response that carries nothing is not acknowledged. -/
theorem bare_response_not_acknowledged :
    let c : Command :=
      { variant := .oneWay, role := some .sender, scope := some .response
        exchange := some Rehearsal.bareOrder }
    let x := c.execute (Rehearsal.environment ∅ .permissive) { parties := {} } .counting
    c.ready = .ok (.sender, .response, Rehearsal.bareOrder) ∧
      callsOf [.acknowledge] x.trace = [] :=
  ⟨rfl, rfl⟩

end ServiceBus.Command
