import ServiceBus.Proofs.Command.Related
import ServiceBus.Proofs.Command.Rewriting
import ServiceBus.Proofs.Command.Signals

set_option autoImplicit false

/-! # What is returned and what is done

Whether a command returns the failures of outgoing legs decides nothing but what its execution
returns. Settling a leg returns what the flag, the role and the scope make of the failure
(`returned`, `settle_fst`), and does the same for both values of the flag (`settle_snd_rethrow`).
Two executions that differ in the flag alone therefore do the same
(`sameEffects_execute`), and they return the same unless it is the failure of a leg that brings
nothing in (`returned_rethrow`).

The flag is read off the scope in which the leg ends, not the one in which it began: a request
whose caller waits fails like a response once it has moved on to it
(`callAndWait_of_response`). -/

namespace ServiceBus

variable {σ : Type}

/-- The environment in which new commands return failures as `rethrow` says. -/
def Environment.rethrowing (env : Environment σ) (rethrow : Bool) : Environment σ :=
  { env with
    settings :=
      { env.settings with exchange := { env.settings.exchange with rethrowFailures := rethrow } } }

/-- The executions do the same: they make the same calls and leave the same behind, and their
commands differ in the flag alone. -/
structure Execution.SameEffects {α : Type} (x x' : Execution σ α) : Prop where
  command (rethrow : Bool) : x'.command.set (.rethrow rethrow) = x.command.set (.rethrow rethrow)
  bus : x'.bus = x.bus
  supply : x'.supply = x.supply
  trace : x'.trace = x.trace

theorem Execution.SameEffects.scope {α : Type} {x x' : Execution σ α} (h : x.SameEffects x') :
    x'.command.scope = x.command.scope := by
  show (x'.command.set (.rethrow true)).scope = (x.command.set (.rethrow true)).scope
  rw [h.command]

namespace Command

open Work

variable (env : Environment σ)

/-! ## The result of a leg -/

/-- What is returned of the result of a leg that ends in this scope. -/
def returned (rethrow : Bool) (role : Role) (scope : Scope) :
    Except BusError Unit → Except BusError Unit
  | .ok () => .ok ()
  | .error e =>
      match role, scope with
      | .receiver, .request => .ok ()
      | .sender, .response => .error e
      | _, _ => if rethrow then .error e else .ok ()

/-- Only a failure is returned, and as it is. -/
theorem eq_of_returned {rethrow : Bool} {role : Role} {scope : Scope}
    {result : Except BusError Unit} {err : BusError}
    (h : returned rethrow role scope result = .error err) : result = .error err := by
  cases result with
  | ok _ => cases h
  | error e => cases role <;> cases scope <;> cases rethrow <;> simp_all [returned]

/-- The flag makes a difference only to the failure of a leg that brings nothing in. -/
theorem returned_rethrow (role : Role) (scope : Scope) (result : Except BusError Unit) :
    returned false role scope result = returned true role scope result ∨
      bringsIn role scope = false ∧ ∃ err, result = .error err ∧
        returned true role scope result = .error err ∧
        returned false role scope result = .ok () := by
  cases result with
  | ok _ => exact .inl rfl
  | error e =>
      cases role <;> cases scope
      · exact .inr ⟨rfl, e, rfl, rfl, rfl⟩
      · exact .inl rfl
      · exact .inl rfl
      · exact .inr ⟨rfl, e, rfl, rfl, rfl⟩

theorem conclude_fst (rethrow : Bool) (role : Role) (result : Except BusError Unit) (l : Leg σ) :
    (conclude env rethrow role result l).1 = returned rethrow role l.scope result := by
  cases result with
  | ok _ => rfl
  | error e =>
      rw [conclude, bind_leg]
      cases role <;> cases l.scope <;> cases rethrow <;> simp [returned]

/-- What is done about a result does not depend on the flag. -/
theorem conclude_snd_rethrow (rethrow rethrow' : Bool) (role : Role)
    (result : Except BusError Unit) (l : Leg σ) :
    (conclude env rethrow role result l).2 = (conclude env rethrow' role result l).2 := by
  cases result with
  | ok _ => rfl
  | error e =>
      rw [conclude, conclude, bind_leg, bind_leg]
      cases role <;> cases l.scope <;> cases rethrow <;> cases rethrow' <;> rfl

theorem settle_fst (rethrow : Bool) (role : Role) (result : Except BusError Unit) (l : Leg σ) :
    (settle env rethrow role result l).1 = returned rethrow role l.scope result := by
  rw [settle_eq, conclude_fst, (does_close env result (now l).2).scope (by decide)]
  rfl

theorem settle_snd_rethrow (rethrow rethrow' : Bool) (role : Role) (result : Except BusError Unit)
    (l : Leg σ) :
    (settle env rethrow role result l).2 = (settle env rethrow' role result l).2 := by
  rw [settle_eq, settle_eq, conclude_snd_rethrow env rethrow rethrow']

/-- A leg that brings something in ends in the scope in which it began. -/
theorem work_scope_of_bringsIn (variant : Variant) (role : Role) (scope : Scope) (l : Leg σ)
    (h : bringsIn role scope = true) : (work env variant role scope l).2.scope = l.scope := by
  cases role <;> cases scope
  · cases h
  · exact (does_incomingResponse env variant l).scope (by decide)
  · exact (does_work_request env variant l).scope (by decide)
  · cases h

/-! ## Executions that differ in the flag -/

section Ready

variable {c : Command} {role : Role} {scope : Scope} {e : Exchange}
  (h : c.ready = .ok (role, scope, e)) (bus : Bus σ) (supply : Supply)

include h

/-- An execution returns what becomes of the result of its work. -/
theorem execute_returned :
    (c.execute env bus supply).result =
      returned c.rethrow role
        (work env c.variant role scope (c.opening role scope e bus supply)).2.scope
        (work env c.variant role scope (c.opening role scope e bus supply)).1 := by
  rw [execute_result env h, course_eq_settle, settle_fst]

/-- The command ends in the scope in which its work does. -/
theorem execute_scope :
    (c.execute env bus supply).command.scope =
      some (work env c.variant role scope (c.opening role scope e bus supply)).2.scope := by
  have hsettle := does_settle env c.rethrow role
    (work env c.variant role scope (c.opening role scope e bus supply)).1
    (work env c.variant role scope (c.opening role scope e bus supply)).2
  rw [execute_command env h, course_eq_settle, afterLeg, hsettle.scope (by decide)]

/-- A failure that is returned is recorded. -/
theorem failure_of_execute_error {err : BusError}
    (herr : (c.execute env bus supply).result = .error err) :
    (c.execute env bus supply).command.failure = some err := by
  rw [execute_returned env h] at herr
  rw [execute_failure env h, course_eq_settle, settle_failure, eq_of_returned herr]
  rfl

/-- A failure is returned or recorded. -/
theorem execute_outcome
    (hnone : (work env c.variant role scope (c.opening role scope e bus supply)).2.failure = none) :
    (∃ err, (c.execute env bus supply).result = .error err ∧
      (work env c.variant role scope (c.opening role scope e bus supply)).1 = .error err) ∨
    (c.execute env bus supply).result = .ok () ∧ (c.execute env bus supply).command.failure =
      failureOf (work env c.variant role scope (c.opening role scope e bus supply)).1 := by
  cases hx : (c.execute env bus supply).result with
  | error err =>
      rw [execute_returned env h] at hx
      exact .inl ⟨err, rfl, eq_of_returned hx⟩
  | ok _ =>
      refine .inr ⟨rfl, ?_⟩
      rw [execute_failure env h, course_eq_settle, settle_failure, hnone, Option.or_none]

/-- The flag decides nothing about what is done. -/
theorem sameEffects_execute (rethrow rethrow' : Bool) :
    Execution.SameEffects ((c.set (.rethrow rethrow)).execute env bus supply)
      ((c.set (.rethrow rethrow')).execute env bus supply) := by
  have hr : (c.set (.rethrow rethrow)).ready = .ok (role, scope, e) := h
  have hr' : (c.set (.rethrow rethrow')).ready = .ok (role, scope, e) := h
  have hcourse :
      ((c.set (.rethrow rethrow')).course env role scope (c.opening role scope e bus supply)).2 =
      ((c.set (.rethrow rethrow)).course env role scope (c.opening role scope e bus supply)).2 :=
    settle_snd_rethrow env rethrow' rethrow role _ _
  exact
    { command := fun b => by
        rw [execute_command env hr, execute_command env hr']
        exact congrArg (fun l => ((c.set (.rethrow b)).afterLeg l supply.now.1
          (work env c.variant role scope (c.opening role scope e bus supply)).2.supply.now.1))
          hcourse
      bus := by
        rw [execute_bus env hr, execute_bus env hr']
        exact congrArg (·.bus) hcourse
      supply := by
        rw [execute_supply env hr, execute_supply env hr']
        exact congrArg (·.supply) hcourse
      trace := by
        rw [execute_trace env hr, execute_trace env hr']
        exact congrArg (·.trace) hcourse }

/-- What is returned differs only by the failure of a leg that brings nothing in. -/
theorem execute_rethrow :
    let x := (c.set (.rethrow true)).execute env bus supply
    let x' := (c.set (.rethrow false)).execute env bus supply
    x'.result = x.result ∨
      bringsIn role scope = false ∧ ∃ err, x.command.failure = some err ∧
        x.result = .error err ∧ x'.result = .ok () := by
  intro x x'
  have hr : (c.set (.rethrow true)).ready = .ok (role, scope, e) := h
  have hr' : (c.set (.rethrow false)).ready = .ok (role, scope, e) := h
  have hx := execute_returned env hr bus supply
  have hx' := execute_returned env hr' bus supply
  have hscope := work_scope_of_bringsIn env c.variant role scope (c.opening role scope e bus supply)
  rcases returned_rethrow role
    (work env c.variant role scope (c.opening role scope e bus supply)).2.scope
    (work env c.variant role scope (c.opening role scope e bus supply)).1 with
    hsame | ⟨hout, err, -, herr, hok⟩
  · exact .inl (hx'.trans (hsame.trans hx.symm))
  · have hresult : x.result = .error err := hx.trans herr
    refine .inr ⟨?_, err, failure_of_execute_error env hr bus supply hresult, hresult,
      hx'.trans hok⟩
    -- a leg that brings something in ends in the scope in which it began
    cases hin : bringsIn role scope with
    | false => rfl
    | true =>
        rw [hscope hin] at hout
        cases hin.symm.trans hout

end Ready

/-! ## Requests that have moved on to the response -/

/-- A waiting caller's request that ends as a response has been answered. -/
theorem callAndWait_of_response {l : Leg σ} (hl : l.scope = .request)
    (h : (callAndWait env l).2.scope = .response) :
    callAndWait env l = takeResponse env true (awaiting env l) := by
  have hpolicy := (does_applyPolicy env l).scope (by decide)
  cases hp : (applyPolicy env l).1 with
  | error err =>
      rw [callAndWait, bind_of_error hp, hpolicy, hl] at h
      cases h
  | ok _ =>
      have hsend := (does_sendSync env (applyPolicy env l).2).scope (by decide)
      cases hs : (sendSync env (applyPolicy env l).2).1 with
      | error err =>
          rw [callAndWait, bind_of_ok hp, bind_of_error hs, hsend, hpolicy, hl] at h
          cases h
      | ok _ => exact callAndWait_of_sent env hp hs

/-- What a waiting caller's request comes to as a response is returned, whatever the flag. -/
theorem execute_of_response {c : Command} {e : Exchange}
    (h : c.ready = .ok (.sender, .request, e)) (hv : c.variant = .requestResponse true)
    (bus : Bus σ) (supply : Supply)
    (hscope : (c.execute env bus supply).command.scope = some .response) :
    (c.execute env bus supply).result =
      (takeResponse env true (awaiting env (c.opening .sender .request e bus supply))).1 := by
  have hwork : work env c.variant .sender .request = callAndWait env := by rw [hv]; rfl
  rw [execute_scope env h, hwork] at hscope
  have hmoved : (callAndWait env (c.opening .sender .request e bus supply)).2.scope = .response :=
    Option.some.inj hscope
  rw [execute_returned env h, hwork, hmoved, ← callAndWait_of_response env rfl hmoved]
  cases (callAndWait env (c.opening .sender .request e bus supply)).1 <;> rfl

/-! ## The setting for new commands -/

/-- Related pieces of work are the same if the legs are. -/
theorem eq_of_related {x x' : Work σ Unit} (h : Related Eq x x') : x = x' :=
  funext fun l => Prod.ext (h l l rfl).1 (h l l rfl).2

/-- No work depends on whether new commands return failures. -/
theorem matched_rethrowing (rethrow : Bool) : env.Matched Eq (env.rethrowing rethrow) where
  scope h := by rw [h]
  closed h := by rw [h]
  exchange h := by rw [h]
  incoming h _ := by rw [h]
  understood h _ := by rw [h]; rfl
  now h := by rw [h]
  notifyOf _ _ _ _ _ h := by rw [h]; exact ⟨rfl, rfl⟩
  applyPolicy _ _ h := by rw [h]; exact ⟨rfl, rfl⟩
  acknowledge _ _ h := by rw [h]; exact ⟨rfl, rfl⟩
  refuse _ _ _ h := by rw [h]; exact ⟨rfl, rfl⟩
  recordFailure _ _ _ h := by rw [h]; exact ⟨rfl, rfl⟩
  resolveHandler _ _ h := by rw [h]; exact ⟨rfl, rfl⟩
  handleMessage _ _ _ _ h := by rw [h]; exact ⟨rfl, rfl⟩
  handleError _ _ _ _ _ h := by rw [h]; exact ⟨rfl, rfl⟩
  send _ _ h := by rw [h]; exact ⟨rfl, rfl⟩
  sendSync _ _ h := by rw [h]; exact ⟨rfl, rfl⟩
  sendFault _ _ _ h := by rw [h]; exact ⟨rfl, rfl⟩
  persist _ _ h := by rw [h]; exact ⟨rfl, rfl⟩
  release _ _ h := by rw [h]; exact ⟨rfl, rfl⟩
  respond _ _ h := by rw [h]; exact ⟨rfl, rfl⟩

theorem work_rethrowing (rethrow : Bool) : work (env.rethrowing rethrow) = work env := by
  funext variant role scope
  exact (eq_of_related (related_work (matched_rethrowing env rethrow) variant role scope)).symm

/-- An execution does not look at the setting, but at the flag of its command. -/
theorem execute_rethrowing (rethrow : Bool) (c : Command) (bus : Bus σ) (supply : Supply) :
    c.execute (env.rethrowing rethrow) bus supply = c.execute env bus supply := by
  have hm := matched_rethrowing env rethrow
  have hclose : close (env.rethrowing rethrow) = close env := by
    funext result
    exact (eq_of_related (related_close hm result)).symm
  have hconclude : conclude (env.rethrowing rethrow) = conclude env := by
    funext rethrow role result
    exact (eq_of_related (related_conclude hm rethrow role result)).symm
  simp only [execute, work_rethrowing, hclose, hconclude]

end Command

end ServiceBus
