import ServiceBus.Proofs.Leg.Effects
import ServiceBus.Rehearsal

set_option autoImplicit false

/-! # Executions

An execution takes a leg, the opening of the command, through one piece of work, the course of
the command: the work that the variant, the role and the scope select, and what settles the leg
after it. What an execution returns, records and calls is read off the leg at the end of the
course (`execute_result` and its like).

What comes after the work adds notifications, and a refusal of a request that has failed; it
gives the transport no signal on a leg of the sender. -/

namespace ServiceBus.Command

open Work

variable {σ : Type} (env : Environment σ)

/-! ## The course of a command -/

/-- What comes after the work on a leg that began with the role `role`. -/
def settle (rethrow : Bool) (role : Role) (result : Except BusError Unit) : Work σ Unit := do
  let _ ← now
  let _ ← attempt (close env result)
  conclude env rethrow role result

/-- The work of a command and what comes after it. -/
def course (c : Command) (role : Role) (scope : Scope) : Work σ Unit := do
  settle env c.rethrow role (← attempt (work env c.variant role scope))

/-- The leg that the course of a command begins with. -/
def opening (c : Command) (role : Role) (scope : Scope) (e : Exchange) (bus : Bus σ)
    (supply : Supply) : Leg σ :=
  c.begin role scope e bus supply.now.2

/-- The handler that an execution of the command for the exchange finds. -/
def participant? (c : Command) (role : Role) (e : Exchange) (bus : Bus σ) : Option HandlerName :=
  c.handler.or (HandlerCache.resolve bus.cache bus.registry ⟨role, e.serviceId, e.operation⟩).1

theorem opening_participant? (c : Command) (role : Role) (scope : Scope) (e : Exchange)
    (bus : Bus σ) (supply : Supply) :
    (c.opening role scope e bus supply).participant? = c.participant? role e bus := by
  have hhandler : (c.opening role scope e bus supply).handler = c.handler := rfl
  rw [Leg.participant?, hhandler, participant?]
  cases c.handler <;> rfl

/-- An execution that lacks something does nothing. -/
theorem execute_of_not_ready {c : Command} {err : BusError} (h : c.ready = .error err)
    (bus : Bus σ) (supply : Supply) :
    c.execute env bus supply =
      { result := .error err, command := c, bus := bus, supply := supply } := by
  rw [execute, h]

section Ready

variable {c : Command} {role : Role} {scope : Scope} {e : Exchange}
  (h : c.ready = .ok (role, scope, e)) (bus : Bus σ) (supply : Supply)

include h

theorem execute_result :
    (c.execute env bus supply).result =
      (c.course env role scope (c.opening role scope e bus supply)).1 := by
  unfold execute
  rw [h]
  rfl

theorem execute_trace :
    (c.execute env bus supply).trace =
      (c.course env role scope (c.opening role scope e bus supply)).2.trace := by
  unfold execute
  rw [h]
  rfl

theorem execute_bus :
    (c.execute env bus supply).bus =
      (c.course env role scope (c.opening role scope e bus supply)).2.bus := by
  unfold execute
  rw [h]
  rfl

theorem execute_supply :
    (c.execute env bus supply).supply =
      (c.course env role scope (c.opening role scope e bus supply)).2.supply := by
  unfold execute
  rw [h]
  rfl

theorem execute_command :
    (c.execute env bus supply).command =
      c.afterLeg (c.course env role scope (c.opening role scope e bus supply)).2 supply.now.1
        (work env c.variant role scope (c.opening role scope e bus supply)).2.supply.now.1 := by
  unfold execute
  rw [h]
  rfl

theorem execute_failure :
    (c.execute env bus supply).command.failure =
      (c.course env role scope (c.opening role scope e bus supply)).2.failure := by
  unfold execute
  rw [h]
  rfl

theorem execute_exchange :
    (c.execute env bus supply).command.exchange =
      some (c.course env role scope (c.opening role scope e bus supply)).2.exchange := by
  unfold execute
  rw [h]
  rfl

end Ready

/-! ## The work on a receiver's request -/

theorem work_request_of_some {l : Leg σ} {handler : HandlerName}
    (h : l.participant? = some handler) (variant : Variant) :
    work env variant .receiver .request l = incomingRequest env variant (resolveHandler l).2 := by
  rw [work, bind_of_ok (resolveHandler_fst l), h]

theorem work_request_of_none {l : Leg σ} (h : l.participant? = none) (variant : Variant) :
    work env variant .receiver .request l =
      (.error (noHandler (resolveHandler l).2.exchange), (resolveHandler l).2) := by
  rw [work, bind_of_ok (resolveHandler_fst l), h]
  rfl

/-! ## The work on a sender's response -/

theorem work_response {variant : Variant} {sync : Bool} (h : variant = .requestResponse sync)
    (l : Leg σ) : work env variant .sender .response l = takeResponse env sync l := by
  rw [h]
  rfl

/-! ## What comes after the work -/

/-- The acts of closing a leg. -/
def closeActs : List Act := .record :: noticeActs

theorem does_close (result : Except BusError Unit) : Does closeActs (close env result) := by
  unfold close
  cases result with
  | ok _ =>
      refine Does.leg.bind fun l => ?_
      split
      · exact .pure ()
      · exact (does_notify env _).mono (by decide)
  | error e =>
      refine ((does_recordFailure e).mono (by decide)).bind fun _ => Does.leg.bind fun l => ?_
      split
      · exact .pure ()
      · exact (does_notifyFailure env e).mono (by decide)

/-- The failure that a piece of work ends with. -/
def failureOf : Except BusError Unit → Option BusError
  | .ok () => none
  | .error e => some e

theorem failureOf_eq_some_iff {result : Except BusError Unit} {e : BusError} :
    failureOf result = some e ↔ result = .error e := by
  cases result <;> simp [failureOf]

theorem failureOf_eq_none_iff {result : Except BusError Unit} :
    failureOf result = none ↔ result = .ok () := by
  cases result <;> simp [failureOf]

theorem failureOf_ne_none_iff {result : Except BusError Unit} :
    failureOf result ≠ none ↔ result ≠ .ok () :=
  not_congr failureOf_eq_none_iff

theorem close_ok (l : Leg σ) :
    close env (.ok ()) l = (if l.closed then pure () else notify env .finished : Work σ Unit) l :=
  rfl

theorem close_error (e : BusError) (l : Leg σ) :
    close env (.error e) l =
      (if l.closed then pure () else notifyFailure env e : Work σ Unit) (l.failing e) := rfl

/-- A leg is closed with the failure of its work, if there is one. -/
theorem close_failure (result : Except BusError Unit) (l : Leg σ) :
    (close env result l).2.failure = (failureOf result).or l.failure := by
  have hn : ∀ m : Leg σ, ∀ state, (notify env state m).2.failure = m.failure :=
    fun m state => (does_notify env state m).failure (by decide)
  cases result with
  | ok _ =>
      rw [close_ok]
      split
      · rfl
      · exact hn l _
  | error e =>
      rw [close_error]
      split
      · rfl
      · exact (does_notifyFailure env e _).failure (by decide)

/-- A leg that has been closed stays as it is if its work has succeeded. -/
theorem close_of_closed {l : Leg σ} (h : l.closed = true) : close env (.ok ()) l = (.ok (), l) := by
  rw [close_ok, if_pos h]
  rfl

/-- A leg that has not been closed before is notified. -/
theorem close_trace_ne_nil (result : Except BusError Unit) {l : Leg σ} (h : l.closed = false) :
    (close env result l).2.trace ≠ [] := by
  have hopen : ¬ l.closed = true := by simp [h]
  cases result with
  | ok _ =>
      rw [close_ok, if_neg hopen, notify, trace_notifyOf]
      exact List.concat_ne_nil _ _
  | error e =>
      rw [close_error, if_neg hopen, notifyFailure, trace_notifyOf]
      exact List.concat_ne_nil _ _

theorem does_conclude (rethrow : Bool) (role : Role) (result : Except BusError Unit) :
    Does [.call .refuse] (conclude env rethrow role result) := by
  unfold conclude
  cases result with
  | ok _ => exact .pure ()
  | error e =>
      refine Does.leg.bind fun l => ?_
      split
      · exact does_refuse env e
      · exact .fail e
      · split
        · exact .fail e
        · exact .pure ()

/-- Only for a receiver's request something more is done. -/
theorem conclude_snd (rethrow : Bool) {role : Role} (result : Except BusError Unit) {l : Leg σ}
    (h : role = .receiver → l.scope = .response) : (conclude env rethrow role result l).2 = l := by
  cases result with
  | ok _ => rfl
  | error e =>
      rw [conclude, bind_leg]
      cases role with
      | sender => cases l.scope <;> cases rethrow <;> rfl
      | receiver =>
          rw [h rfl]
          cases rethrow <;> rfl

theorem conclude_sender (rethrow : Bool) (result : Except BusError Unit) (l : Leg σ) :
    (conclude env rethrow .sender result l).2 = l :=
  conclude_snd env rethrow result fun h => by cases h

/-- A response that has failed fails. -/
theorem conclude_response (rethrow : Bool) (result : Except BusError Unit) {l : Leg σ}
    (h : l.scope = .response) : (conclude env rethrow .sender result l).1 = result := by
  cases result with
  | ok _ => rfl
  | error e =>
      rw [conclude, bind_leg, h]
      rfl

/-- A request that has failed is refused. -/
theorem conclude_request (rethrow : Bool) (result : Except BusError Unit) {l : Leg σ}
    (h : l.scope = .request) :
    conclude env rethrow .receiver result l =
      match result with
      | .ok () => (.ok (), l)
      | .error e => refuse env e l := by
  cases result with
  | ok _ => rfl
  | error e =>
      rw [conclude, bind_leg, h]

theorem settle_eq (rethrow : Bool) (role : Role) (result : Except BusError Unit) (l : Leg σ) :
    settle env rethrow role result l =
      conclude env rethrow role result (close env result (now l).2).2 := rfl

/-- The acts of settling a leg. -/
def settleActs : List Act := .draw :: .call .refuse :: closeActs

theorem does_settle (rethrow : Bool) (role : Role) (result : Except BusError Unit) :
    Does settleActs (settle env rethrow role result) := by
  refine (Does.now.mono (by decide)).bind fun _ => ?_
  refine ((does_close env result).mono (by decide)).attempt.bind fun _ => ?_
  exact (does_conclude env rethrow role result).mono (by decide)

/-- A leg is settled with notifications and a refusal. -/
theorem call_not_mem_settleActs {kinds : List CallKind} (hn : .notify ∉ kinds)
    (hr : .refuse ∉ kinds) : ∀ kind ∈ kinds, .call kind ∉ settleActs := by
  intro kind hk hact
  have hkind : kind = .refuse ∨ kind = .notify := by
    simpa [settleActs, closeActs, noticeActs] using hact
  rcases hkind with rfl | rfl
  · exact hr hk
  · exact hn hk

/-- Nothing is refused but a receiver's request. -/
theorem steps_settle (rethrow : Bool) {role : Role} (result : Except BusError Unit) {l : Leg σ}
    (h : role = .receiver → l.scope = .response) :
    Leg.Steps (.draw :: closeActs) l (settle env rethrow role result l).2 := by
  have hnow : Leg.Steps (.draw :: closeActs) l (now l).2 := (Does.now l).mono (by decide)
  have hclose := does_close env result (now l).2
  have hconclude : (conclude env rethrow role result (close env result (now l).2).2).2 =
      (close env result (now l).2).2 :=
    conclude_snd env rethrow result fun hr => (hclose.scope (by decide)).trans (h hr)
  rw [settle_eq, hconclude]
  exact hnow.trans (hclose.mono (by decide))

theorem does_settle_sender (rethrow : Bool) (result : Except BusError Unit) :
    Does (.draw :: closeActs) (settle env rethrow .sender result : Work σ Unit) :=
  fun _ => steps_settle env rethrow result fun h => by cases h

theorem settle_failure (rethrow : Bool) (role : Role) (result : Except BusError Unit)
    (l : Leg σ) :
    (settle env rethrow role result l).2.failure = (failureOf result).or l.failure := by
  have hnow : (now l).2.failure = l.failure := rfl
  rw [settle_eq, (does_conclude env rethrow role result _).failure (by decide), close_failure, hnow]

/-- No failure is recorded of work that succeeds and has recorded none itself. -/
theorem settle_failure_eq_none_iff {rethrow : Bool} {role : Role} {result : Except BusError Unit}
    {l : Leg σ} : (settle env rethrow role result l).2.failure = none ↔
      result = .ok () ∧ l.failure = none := by
  rw [settle_failure, Option.or_eq_none_iff, failureOf_eq_none_iff]

theorem settle_response (rethrow : Bool) (result : Except BusError Unit) {l : Leg σ}
    (h : l.scope = .response) : (settle env rethrow .sender result l).1 = result := by
  have hclose := does_close env result (now l).2
  rw [settle_eq]
  refine conclude_response env rethrow result ?_
  rw [hclose.scope (by decide)]
  exact h

/-- A leg that has succeeded and been closed is settled without a call. -/
theorem settle_of_closed (rethrow : Bool) {role : Role} {l : Leg σ} (h : l.closed = true) :
    (settle env rethrow role (.ok ()) l).2.trace = l.trace := by
  have hnow : (now l).2.closed = true := h
  rw [settle_eq, close_of_closed env hnow]
  rfl

/-- A leg that has been closed makes no call when it is closed again. -/
theorem close_trace_of_closed (result : Except BusError Unit) {l : Leg σ} (h : l.closed = true) :
    (close env result l).2.trace = l.trace := by
  cases result with
  | ok _ => rw [close_of_closed env h]
  | error e =>
      rw [close_error, if_pos h]
      rfl

/-- A leg that has been signalled is not refused. -/
theorem conclude_of_signalled (rethrow : Bool) (role : Role) (result : Except BusError Unit)
    {l : Leg σ} (h : l.signalled = true) : (conclude env rethrow role result l).2 = l := by
  cases hscope : l.scope with
  | response => exact conclude_snd env rethrow result fun _ => hscope
  | request =>
      cases role with
      | sender => exact conclude_sender env rethrow result l
      | receiver =>
          rw [conclude_request env rethrow result hscope]
          cases result with
          | ok _ => rfl
          | error e =>
              show (refuse env e l).2 = l
              rw [refuse, signal_of_signalled _ _ h]

/-- A leg that has been closed and signalled is settled without a call. -/
theorem settle_of_signalled (rethrow : Bool) (role : Role) (result : Except BusError Unit)
    {l : Leg σ} (hclosed : l.closed = true) (hsignalled : l.signalled = true) :
    (settle env rethrow role result l).2.trace = l.trace := by
  have hclose := does_close env result (now l).2
  rw [settle_eq, conclude_of_signalled env rethrow role result (hclose.signalled hsignalled)]
  exact close_trace_of_closed env result hclosed

/-- A request that has been taken through its leg does not fail, and its end is signalled, if
that was done wherever the work succeeded. -/
theorem settle_request (rethrow : Bool) (result : Except BusError Unit) {l : Leg σ}
    (h : l.scope = .request) (hl : result = .ok () → l.signalled = true) :
    (settle env rethrow .receiver result l).1 = .ok () ∧
      (settle env rethrow .receiver result l).2.signalled = true := by
  have hclose := does_close env result (now l).2
  have hscope : (close env result (now l).2).2.scope = .request := by
    rw [hclose.scope (by decide)]
    exact h
  rw [settle_eq, conclude_request env rethrow result hscope]
  cases result with
  | ok _ => exact ⟨rfl, hclose.signalled (hl rfl)⟩
  | error e => exact ⟨refuse_fst env _ e, refuse_signalled env _ e⟩

/-! ## What a course makes of its work -/

section Course

variable (c : Command) (role : Role) (scope : Scope) (l : Leg σ)

theorem course_eq_settle :
    c.course env role scope l =
      settle env c.rethrow role (work env c.variant role scope l).1
        (work env c.variant role scope l).2 := rfl

/-- Apart from notifications and a refusal, a course makes the calls of its work. -/
theorem callsOf_course {kinds : List CallKind} (hn : .notify ∉ kinds) (hr : .refuse ∉ kinds) :
    callsOf kinds (c.course env role scope l).2.trace =
      callsOf kinds (work env c.variant role scope l).2.trace := by
  have hsettle := does_settle env c.rethrow role (work env c.variant role scope l).1
    (work env c.variant role scope l).2
  rw [course_eq_settle]
  exact hsettle.callsOf (call_not_mem_settleActs hn hr)

/-- The signals of a sender's course are those of its work. -/
theorem signals_course_sender :
    callsOf signalKinds (c.course env .sender scope l).2.trace =
      callsOf signalKinds (work env c.variant .sender scope l).2.trace :=
  (does_settle_sender env c.rethrow (work env c.variant .sender scope l).1
    (work env c.variant .sender scope l).2).callsOf (by decide)

/-- A course leaves the store as its work does. -/
theorem course_store :
    (c.course env role scope l).2.bus.store = (work env c.variant role scope l).2.bus.store :=
  (does_settle env c.rethrow role (work env c.variant role scope l).1
    (work env c.variant role scope l).2).store (by decide)

/-- A course leaves the exchange as its work does. -/
theorem course_exchange :
    (c.course env role scope l).2.exchange = (work env c.variant role scope l).2.exchange :=
  (does_settle env c.rethrow role (work env c.variant role scope l).1
    (work env c.variant role scope l).2).exchange (by decide)

end Course

/-- Apart from notifications and a refusal, an execution makes the calls of its work. -/
theorem callsOf_execute {c : Command} {role : Role} {scope : Scope} {e : Exchange}
    (h : c.ready = .ok (role, scope, e)) (bus : Bus σ) (supply : Supply) {kinds : List CallKind}
    (hn : .notify ∉ kinds) (hr : .refuse ∉ kinds) :
    callsOf kinds (c.execute env bus supply).trace = callsOf kinds
      (work env c.variant role scope (c.opening role scope e bus supply)).2.trace := by
  rw [execute_trace env h, callsOf_course env c role scope _ hn hr]

/-- The store is what it is on the leg of the work when these calls are made. -/
theorem entriesOf_execute {c : Command} {role : Role} {scope : Scope} {e : Exchange}
    (h : c.ready = .ok (role, scope, e)) (bus : Bus σ) (supply : Supply) {kinds : List CallKind}
    (hn : .notify ∉ kinds) (hr : .refuse ∉ kinds) :
    entriesOf kinds (c.execute env bus supply).trace = entriesOf kinds
      (work env c.variant role scope (c.opening role scope e bus supply)).2.trace := by
  rw [execute_trace env h, course_eq_settle]
  exact (does_settle env c.rethrow role _ _).entriesOf (call_not_mem_settleActs hn hr)

/-- An execution leaves the store as its work does. -/
theorem execute_store {c : Command} {role : Role} {scope : Scope} {e : Exchange}
    (h : c.ready = .ok (role, scope, e)) (bus : Bus σ) (supply : Supply) :
    (c.execute env bus supply).bus.store =
      (work env c.variant role scope (c.opening role scope e bus supply)).2.bus.store := by
  rw [execute_bus env h, course_store]

end ServiceBus.Command

/-! ## Executions in a rehearsal -/

namespace ServiceBus.Rehearsal

/-- What commands share in a rehearsal without services and with the usual settings. -/
def environment (handlers : Dict HandlerScript) (policy : PolicyScript) : Environment Channel :=
  { parties := parties handlers policy }

/-- An exchange with nothing in its slots. -/
def bareOrder : Exchange :=
  { id := default
    pattern := .oneWay
    serviceId := "orders"
    operation := "place"
    context := { messageId := default, createdAt := default } }

/-- An order of a book. -/
def bookOrder : Exchange := { bareOrder with input := some { body := "book" } }

end ServiceBus.Rehearsal
