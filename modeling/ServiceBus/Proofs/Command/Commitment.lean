import ServiceBus.Proofs.Command.Reception
import ServiceBus.Proofs.Leg.Commitment

set_option autoImplicit false

/-! # What the participant has been told when a leg is acknowledged

Whether a message can be lost or come twice is decided by the order of two calls: the one that
tells the participant, and the acknowledgement. A one-way request and an answer to it are
acknowledged first; a request with a response, and a response that somebody is called back with,
are acknowledged last (`acknowledged_in_order`). The settling of a leg adds neither of the two
calls (`calls_course`). -/

namespace ServiceBus.Command

open Work

variable {σ : Type} (env : Environment σ)

/-- A course adds a refusal and notifications to the calls of its work. -/
theorem calls_course (c : Command) (role : Role) (scope : Scope) (l : Leg σ) :
    ∃ added, (c.course env role scope l).2.calls =
        (work env c.variant role scope l).2.calls ++ added ∧
      ∀ call ∈ added, call.kind = .refuse ∨ call.kind = .notify := by
  obtain ⟨added, hcalls, hadded⟩ := (does_settle env c.rethrow role
    (work env c.variant role scope l).1 (work env c.variant role scope l).2).calls
  refine ⟨added, hcalls, fun call hmem => ?_⟩
  simpa [settleActs, closeActs, noticeActs] using hadded call hmem

/-- What tells the participant something is neither of these. -/
theorem kind_ne_of_callback {call : Call} (h : call.kind ∈ callbackKinds) :
    call.kind ≠ .refuse ∧ call.kind ≠ .notify := by
  have hk : call.kind = .handleMessage ∨ call.kind = .handleError := by
    simpa [callbackKinds] using h
  rcases hk with hk | hk <;> simp [hk]

section Course

variable {c : Command} {role : Role} {scope : Scope} {l : Leg σ} {first later : Call → Prop}

/-- The order of the calls of a course is the one of its work. -/
theorem onlyAfter_course (h : OnlyAfter first later (work env c.variant role scope l).2.calls)
    (hlater : ∀ call, later call → call.kind ≠ .refuse ∧ call.kind ≠ .notify) :
    OnlyAfter first later (c.course env role scope l).2.calls := by
  obtain ⟨added, hcalls, hadded⟩ := calls_course env c role scope l
  rw [hcalls]
  refine h.append fun call hmem hc => ?_
  rcases hadded call hmem with hk | hk
  · exact (hlater call hc).1 hk
  · exact (hlater call hc).2 hk

theorem precede_course (h : Precede first later (work env c.variant role scope l).2.calls)
    (hfirst : ∀ call, first call → call.kind ≠ .refuse ∧ call.kind ≠ .notify) :
    Precede first later (c.course env role scope l).2.calls := by
  obtain ⟨added, hcalls, hadded⟩ := calls_course env c role scope l
  rw [hcalls]
  refine h.append fun call hmem hc => ?_
  rcases hadded call hmem with hk | hk
  · exact (hfirst call hc).1 hk
  · exact (hfirst call hc).2 hk

end Course

/-! ## The work -/

theorem mayCommit_work_request {variant : Variant}
    (hv : variant = .oneWay ∨ variant = .callback) :
    MayCommit env uncommittedActs uncommittedActs requestActs
      (work env variant .receiver .request) := by
  refine .bind_right (does_resolveHandler.mono (by decide)) (fun _ h => h) fun handler => ?_
  cases handler with
  | none => exact .of_does (Does.exchange.bind fun e => .fail _)
  | some handler =>
      rcases hv with rfl | rfl
      · exact mayCommit_receiveOneWay env
      · exact mayCommit_receiveCallback env

theorem mayCommit_work_response {variant : Variant}
    (hv : variant = .oneWay ∨ variant = .callback) :
    MayCommit env noticeActs noticeActs answerActs (work env variant .sender .response) := by
  rcases hv with rfl | rfl
  · exact mayCommit_takeFault env
  · exact mayCommit_takeFault env

/-- A request with a response is acknowledged only when a handler has taken it, if the transport has
not marked it as failed. -/
theorem onlyAfter_work_request (c : Command) (sync : Bool) {e : Exchange}
    (he : e.isError = false) (bus : Bus σ) (supply : Supply) :
    OnlyAfter (fun call => ∃ handler incoming, call = .handleMessage handler incoming none)
      (·.kind = .acknowledge) (work env (.requestResponse sync) .receiver .request
        (c.opening .receiver .request e bus supply)).2.calls := by
  have hparticipant := opening_participant? c .receiver .request e bus supply
  cases hh : c.participant? .receiver e bus with
  | none =>
      have hfind := does_resolveHandler (c.opening .receiver .request e bus supply)
      rw [work_request_of_none env (hparticipant.trans hh)]
      exact .of_forall (hfind.not_acknowledged rfl (by decide))
  | some handler =>
      have hl := received bus supply hh
      have htrace : (c.reception e bus supply).trace = [] := by
        rw [reception, resolveHandler, bind_leg]
        cases (c.opening .receiver .request e bus supply).handler <;> rfl
      rw [work_request_of_some env (hparticipant.trans hh), ← reception]
      exact onlyAfter_incomingRequest env sync htrace hl.scope (by rw [hl.exchange, he])

/-! ## Executions -/

/-- In which order the participant is told and the leg is acknowledged. A handler gets a request
that expects no response only after it has been acknowledged, and the participant is told about an
answer to one only after that. A request with a response, unless the transport has marked it as
failed, is acknowledged only after a handler has taken it. Whatever the participant is told about a
response that it is called back with, it is told before the response is acknowledged; and
acknowledged it is, also if the participant fails. -/
theorem acknowledged_in_order {c : Command} {role : Role} {scope : Scope} {e : Exchange}
    (h : c.ready = .ok (role, scope, e)) (bus : Bus σ) (supply : Supply) :
    let calls := (c.execute env bus supply).trace.map (·.call)
    (role = .receiver → scope = .request → c.variant = .oneWay ∨ c.variant = .callback →
      OnlyAfter (·.kind = .acknowledge) (·.kind = .handleMessage) calls) ∧
    (role = .sender → scope = .response → c.variant = .oneWay ∨ c.variant = .callback →
      OnlyAfter (·.kind = .acknowledge) (·.kind ∈ callbackKinds) calls) ∧
    (role = .receiver → scope = .request → (∃ sync, c.variant = .requestResponse sync) →
      e.isError = false →
      OnlyAfter (fun call => ∃ handler incoming, call = .handleMessage handler incoming none)
        (·.kind = .acknowledge) calls) ∧
    (role = .sender → scope = .response → c.variant = .requestResponse false →
      Precede (·.kind ∈ callbackKinds) (·.kind = .acknowledge) calls) := by
  intro calls
  have hcalls : calls =
      (c.course env role scope (c.opening role scope e bus supply)).2.calls := by
    rw [Leg.calls, ← execute_trace env h]
  rw [hcalls]
  refine ⟨?_, ?_, ?_, ?_⟩
  · rintro rfl rfl hv
    have hwork : OnlyAfter (·.kind = .acknowledge) (·.kind ∈ [.handleMessage])
        (work env c.variant .receiver .request
          (c.opening .receiver .request e bus supply)).2.calls :=
      (mayCommit_work_request env hv).onlyAfter rfl rfl (by decide) (by decide) (by decide)
        (by decide)
    refine onlyAfter_course env (by simpa using hwork) fun call hk => ?_
    simp [hk]
  · rintro rfl rfl hv
    have hwork : OnlyAfter (·.kind = .acknowledge) (·.kind ∈ callbackKinds)
        (work env c.variant .sender .response
          (c.opening .sender .response e bus supply)).2.calls :=
      (mayCommit_work_response env hv).onlyAfter rfl rfl (by decide) (by decide) (by decide)
        (by decide)
    exact onlyAfter_course env hwork fun call => kind_ne_of_callback
  · rintro rfl rfl ⟨sync, hv⟩ he
    have hwork := onlyAfter_work_request env c sync he bus supply
    rw [← hv] at hwork
    refine onlyAfter_course env hwork fun call hk => ?_
    simp [hk]
  · rintro rfl rfl hv
    have hwork : Precede (·.kind ∈ callbackKinds) (·.kind = .acknowledge)
        (work env c.variant .sender .response
          (c.opening .sender .response e bus supply)).2.calls := by
      rw [work_response env hv]
      exact (mayCommit_takeResponse env).precede rfl rfl (by decide) (by decide) (by decide)
        (by decide)
    exact precede_course env hwork fun call => kind_ne_of_callback

section Books

open Rehearsal

/-- A command of the shop or the stock for an order with its price. -/
def pricedLeg (variant : Variant) (role : Role) (scope : Scope) : Command :=
  { variant := variant, role := some role, scope := some scope
    exchange := some { bookOrder with output := some { body := "12" } }
    handler := some (match role with
      | .sender => "shop"
      | .receiver => "stock") }

/-- The stock takes the order, and the shop fails to take the price. -/
theorem acknowledged_in_order_priced :
    let env := environment
      (Dict.empty.insert "shop" { onMessage := some (.application "closed" none) }) .permissive
    let x variant role scope :=
      (pricedLeg variant role scope).execute env { parties := {} } .counting
    let calls variant role scope := (x variant role scope).trace.map (·.call)
    (x (.requestResponse false) .sender .response).command.failed = true ∧
      OnlyAfter (·.kind = .acknowledge) (·.kind = .handleMessage)
        (calls .oneWay .receiver .request) ∧
      OnlyAfter (·.kind = .acknowledge) (·.kind ∈ callbackKinds)
        (calls .callback .sender .response) ∧
      OnlyAfter (fun call => ∃ handler incoming, call = .handleMessage handler incoming none)
        (·.kind = .acknowledge) (calls (.requestResponse true) .receiver .request) ∧
      Precede (·.kind ∈ callbackKinds) (·.kind = .acknowledge)
        (calls (.requestResponse false) .sender .response) := by
  intro env x calls
  obtain ⟨hrequest, -⟩ := acknowledged_in_order env
    (c := pricedLeg .oneWay .receiver .request) rfl { parties := {} } .counting
  obtain ⟨-, hanswer, -⟩ := acknowledged_in_order env
    (c := pricedLeg .callback .sender .response) rfl { parties := {} } .counting
  obtain ⟨-, -, htaken, -⟩ := acknowledged_in_order env
    (c := pricedLeg (.requestResponse true) .receiver .request) rfl { parties := {} } .counting
  obtain ⟨-, -, -, htold⟩ := acknowledged_in_order env
    (c := pricedLeg (.requestResponse false) .sender .response) rfl { parties := {} } .counting
  exact ⟨rfl, hrequest rfl rfl (.inl rfl), hanswer rfl rfl (.inr rfl),
    htaken rfl rfl ⟨true, rfl⟩ rfl, htold rfl rfl rfl⟩

end Books

end ServiceBus.Command
