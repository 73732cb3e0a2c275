import ServiceBus.Proofs.Command.Rewriting
import ServiceBus.Proofs.Leg.Departure

set_option autoImplicit false

/-! # Nothing leaves without the policy

What a command makes leave gets to the transport in one of three ways (`Departure`). Either the
policy accepts the exchange and it is handed over as the policy has left it; or the policy rejects
it, and then nothing is handed over, the transport gets no signal, and the violation is the
failure of the command; or it is a response that is marked as failed, which is handed over as it
is. What comes back to a sender is judged at most once (`JudgedOnce`). -/

namespace ServiceBus.Command

open Work

variable {σ : Type} (env : Environment σ) {c : Command} {role : Role} {scope : Scope}
  {e : Exchange}

/-- How an exchange leaves, by the calls that judge it and hand it over, the signals to the
transport and the failure that is recorded. After it has been handed over, the policy may be asked
about a response that a sender has got for it. -/
inductive Departure (role : Role) (scope : Scope) (e : Exchange) (passage signals : List Call)
    (failure : Option BusError) : Prop where
  /-- A response that is marked as failed is handed over without asking the policy. -/
  | marked (hr : role = .receiver) (he : e.isError = true) (call : Call)
      (hcall : call.handed? = some e) (hp : passage = [call])
  /-- The policy rejects the exchange, and nothing is told the transport. -/
  | rejected (ha : role = .receiver → e.isError = false) (e' : Exchange)
      (violation : PolicyViolation)
      (hp : passage = [.policy e role scope ⟨e', some violation⟩]) (hs : signals = [])
      (hf : failure = some (BusError.ofViolation violation))
  /-- The policy accepts the exchange, and it is handed over as the policy leaves it. -/
  | accepted (ha : role = .receiver → e.isError = false) (e' : Exchange) (call : Call)
      (later : List Call) (hcall : call.handed? = some e')
      (hlater : ∀ c ∈ later, role = .sender ∧ c.judges .sender .response = true)
      (hp : passage = .policy e role scope ⟨e', none⟩ :: call :: later)

/-! ## What leaves -/

section Leaves

variable {l : Leg σ} (hl : l.trace = []) (he : l.exchange = e) (hrole : l.role = role)

include hl he hrole

/-- A course whose work is one of the courses of what leaves. -/
theorem departure_of_leavingCourse (hscope : l.scope = scope)
    (hleaves : bringsIn role scope = false) (ha : role = .receiver → e.isError = false)
    (hcourse : LeavingCourse env l (work env c.variant role scope l)) :
    Departure role scope e (callsOf passageKinds (c.course env role scope l).2.trace)
      (callsOf signalKinds (c.course env role scope l).2.trace)
      (c.course env role scope l).2.failure := by
  have hpassage : callsOf passageKinds (c.course env role scope l).2.trace =
      callsOf passageKinds (work env c.variant role scope l).2.trace :=
    callsOf_course env c role scope l (by decide) (by decide)
  rw [hpassage]
  cases hcourse with
  | rejected violation hv hx hkept hcalls hsignals =>
      have hruling : l.ruling env = ⟨(l.ruling env).exchange, some violation⟩ := by rw [← hv]
      -- what leaves is no receiver's request, so that nothing is refused
      have hresponse : role = .receiver →
          (work env c.variant role scope l).2.scope = .response := by
        rintro rfl
        rw [hkept, hscope]
        cases scope with
        | request => cases hleaves
        | response => rfl
      have hsettle := steps_settle env c.rethrow (work env c.variant role scope l).1 hresponse
      refine .rejected ha (l.ruling env).exchange violation ?_ ?_ ?_
      · rw [hcalls, hl, ← hruling, he, hrole, hscope]
        rfl
      · rw [course_eq_settle, hsettle.callsOf (by decide), hsignals, hl]
        rfl
      · rw [course_eq_settle, settle_failure, hx]
        rfl
  | accepted hv call later hcall hlater hcalls =>
      have hruling : l.ruling env = ⟨(l.ruling env).exchange, none⟩ := by rw [← hv]
      rw [hrole] at hlater
      refine .accepted ha (l.ruling env).exchange call later hcall hlater ?_
      rw [hcalls, hl, ← hruling, he, hrole, hscope]
      rfl

/-- A course whose work hands over a response that is marked as failed. -/
theorem departure_of_handsOver (hr : role = .receiver) (herror : e.isError = true)
    (signals : List Call) (failure : Option BusError)
    (hover : HandsOver (work env c.variant role scope) l) :
    Departure role scope e (callsOf passageKinds (c.course env role scope l).2.trace) signals
      failure := by
  obtain ⟨call, later, hcall, hlater, hcalls⟩ := hover
  have hlast : later = [] := by
    refine List.eq_nil_iff_forall_not_mem.mpr fun x hx => ?_
    have hsender := (hlater x hx).1
    rw [hrole, hr] at hsender
    cases hsender
  refine .marked hr herror call (by rw [hcall, he]) ?_
  rw [callsOf_course env c _ _ l (by decide) (by decide), hcalls, hl, hlast]
  rfl

end Leaves

theorem departure_course (hleaves : bringsIn role scope = false) (bus : Bus σ) (supply : Supply) :
    let l := (c.course env role scope (c.opening role scope e bus supply)).2
    Departure role scope e (callsOf passageKinds l.trace) (callsOf signalKinds l.trace)
      l.failure := by
  let l := c.opening role scope e bus supply
  have hl : l.trace = [] := rfl
  have he : l.exchange = e := rfl
  have hrole : l.role = role := rfl
  have hscope : l.scope = scope := rfl
  cases role with
  | sender =>
      cases scope with
      | response => cases hleaves
      | request =>
          refine departure_of_leavingCourse env hl he hrole hscope hleaves (by simp) ?_
          exact leavingCourse_outgoingRequest env hrole c.variant
  | receiver =>
      cases scope with
      | request => cases hleaves
      | response =>
          cases herror : e.isError with
          | true =>
              refine departure_of_handsOver env hl he hrole rfl herror _ _ ?_
              exact handsOver_outgoingResponse env herror c.variant
          | false =>
              refine departure_of_leavingCourse env hl he hrole hscope hleaves (fun _ => herror) ?_
              exact leavingCourse_outgoingResponse env herror c.variant

/-! ## What comes back -/

/-- The calls of a trace that have the policy judge a response that has come to a sender. -/
def responsesJudged (trace : List Entry) : List Call :=
  (callsOf [.policy] trace).filter (·.judges .sender .response)

/-- The response is judged once if there is something to judge in it, and otherwise not at all. -/
def JudgedOnce (e : Exchange) (judged : List Call) : Prop :=
  ∃ ruling, judged = if e.toBeJudged then [.policy e .sender .response ruling] else []

/-- The request of a caller that waits is not a response. -/
theorem responsesJudged_of_policies {trace : List Entry} (request : List Call) {m : Leg σ}
    (hrole : m.role = .sender) (hscope : m.scope = .response)
    (hrequest : ∀ c ∈ request, c.judges .sender .response = false)
    (h : callsOf [.policy] trace = request ++ judgement env m) :
    JudgedOnce m.exchange (responsesJudged trace) := by
  refine ⟨m.ruling env, ?_⟩
  have hnone : request.filter (·.judges .sender .response) = [] :=
    List.filter_eq_nil_iff.mpr fun c hc => by simp [hrequest c hc]
  have hall : (judgement env m).filter (·.judges .sender .response) = judgement env m :=
    List.filter_eq_self.mpr fun c hc => judges_of_mem_judgement env hrole hscope hc
  rw [responsesJudged, h, List.filter_append, hnone, hall, judgement, hrole, hscope]
  rfl

section Ready

variable (bus : Bus σ) (supply : Supply)

/-- A response that is taken on a leg of its own. -/
theorem judgedOnce_response (h : c.ready = .ok (.sender, .response, e)) {sync : Bool}
    (hv : c.variant = .requestResponse sync) :
    JudgedOnce e (responsesJudged (c.execute env bus supply).trace) := by
  refine responsesJudged_of_policies env [] (m := c.opening .sender .response e bus supply) rfl
    rfl (by simp) ?_
  rw [callsOf_execute env h bus supply (by decide) (by decide), work_response env hv,
    callsOf_takeResponse env List.mem_cons_self (by decide) sync rfl]
  rfl

variable (h : c.ready = .ok (.sender, .request, e)) (hv : c.variant = .requestResponse true)

include h hv

/-- The calls of a caller that waits are those of its work. -/
theorem callsOf_execute_call {kinds : List CallKind} (hn : .notify ∉ kinds) (hr : .refuse ∉ kinds) :
    callsOf kinds (c.execute env bus supply).trace =
      callsOf kinds (callAndWait env (c.opening .sender .request e bus supply)).2.trace := by
  rw [callsOf_execute env h bus supply hn hr, hv]
  rfl

/-- A response that its caller has waited for. -/
theorem judgedOnce_answer {sent : Exchange} {limit : Nat} {a : Answer}
    (hsent : .sendSync sent limit a ∈ callsOf [.sendSync] (c.execute env bus supply).trace)
    (hok : a.failure? limit = none) :
    JudgedOnce a.exchange (responsesJudged (c.execute env bus supply).trace) := by
  rw [callsOf_execute_call env bus supply h hv (by decide) (by decide)] at hsent
  obtain ⟨m, hme, hmr, hms, hpolicies⟩ := policies_callAndWait_of_answer env rfl hsent hok
  let ruling := (c.opening .sender .request e bus supply).ruling env
  rw [← hme]
  refine responsesJudged_of_policies env [.policy e .sender .request ruling] hmr hms ?_ ?_
  · simp [Call.judges]
  · rw [callsOf_execute_call env bus supply h hv (by decide) (by decide), hpolicies]
    rfl

/-- Without an answer there is no response to judge. -/
theorem responsesJudged_of_unanswered
    (hnone : ∀ sent limit a,
      .sendSync sent limit a ∈ callsOf [.sendSync] (c.execute env bus supply).trace →
        a.failure? limit ≠ none) :
    responsesJudged (c.execute env bus supply).trace = [] := by
  rw [callsOf_execute_call env bus supply h hv (by decide) (by decide)] at hnone
  rw [responsesJudged, callsOf_execute_call env bus supply h hv (by decide) (by decide),
    policies_callAndWait_of_unanswered env hnone]
  rfl

end Ready

/-! ## Nothing leaves without the policy -/

/-- What a command makes leave has been accepted by the policy on this very leg and is handed over
once, as the policy has left it, except that a response that is marked as failed is handed over as
it is; what the policy rejects is not handed over and not signalled. A response that comes back to
a sender, on a leg of its own or to a caller that waits, is judged once if it is not marked as
failed and brings a message that is no fault document, and it is not judged otherwise. -/
theorem execute_passes_policy (h : c.ready = .ok (role, scope, e)) (bus : Bus σ)
    (supply : Supply) :
    let x := c.execute env bus supply
    (bringsIn role scope = false →
      Departure role scope e (callsOf passageKinds x.trace) (callsOf signalKinds x.trace)
        x.command.failure) ∧
    (role = .sender → scope = .response → ∀ sync, c.variant = .requestResponse sync →
      JudgedOnce e (responsesJudged x.trace)) ∧
    (role = .sender → scope = .request → c.variant = .requestResponse true →
      (∀ sent limit a, .sendSync sent limit a ∈ callsOf [.sendSync] x.trace →
        a.failure? limit = none → JudgedOnce a.exchange (responsesJudged x.trace)) ∧
      ((∀ sent limit a, .sendSync sent limit a ∈ callsOf [.sendSync] x.trace →
        a.failure? limit ≠ none) → responsesJudged x.trace = [])) := by
  intro x
  refine ⟨fun hleaves => ?_, ?_, ?_⟩
  · rw [execute_trace env h, execute_failure env h]
    exact departure_course env hleaves bus supply
  · rintro rfl rfl sync hv
    exact judgedOnce_response env bus supply h hv
  · rintro rfl rfl hv
    exact ⟨fun _ _ _ hsent hok => judgedOnce_answer env bus supply h hv hsent hok,
      responsesJudged_of_unanswered env bus supply h hv⟩

section Books

open Rehearsal

/-- The order of a book whose caller waits for the price passes a policy that marks every message,
and so does the price, which is judged once. -/
theorem execute_passes_policy_price :
    let env := environment ∅ marking
    let bus : Bus Channel :=
      { parties := { sendSync := [{ change := { output := some (some { body := "12" }) } }] } }
    let x := bookCall.execute env bus .counting
    Departure .sender .request bookOrder (callsOf passageKinds x.trace)
        (callsOf signalKinds x.trace) x.command.failure ∧
      ∃ sent a, .sendSync sent 30000 a ∈ callsOf [.sendSync] x.trace ∧ a.failure? 30000 = none ∧
        JudgedOnce a.exchange (responsesJudged x.trace) := by
  intro env bus x
  have hpasses := execute_passes_policy env (c := bookCall) rfl bus .counting
  have hsent : ∃ sent a, callsOf [.sendSync] x.trace = [.sendSync sent 30000 a] ∧
      a.failure? 30000 = none := ⟨_, _, rfl, rfl⟩
  obtain ⟨sent, a, hcalls, hok⟩ := hsent
  have hmem : .sendSync sent 30000 a ∈ callsOf [.sendSync] x.trace :=
    hcalls ▸ List.mem_singleton_self _
  exact ⟨hpasses.1 rfl, sent, a, hmem, hok, (hpasses.2.2 rfl rfl rfl).1 sent 30000 a hmem hok⟩

end Books

end ServiceBus.Command
