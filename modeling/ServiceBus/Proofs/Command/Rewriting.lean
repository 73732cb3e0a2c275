import ServiceBus.Proofs.Command.Moves
import ServiceBus.Proofs.Command.Reception
import ServiceBus.Proofs.Command.Waiting
import ServiceBus.Proofs.Leg.Rewriting

set_option autoImplicit false

/-! # Messages as the policy leaves them

A policy may change the messages of what it accepts on a leg that brings something in. A
receiver's participant gets the message of a request as the policy has left it, and so does a
caller that waits for a response. A sender's participant that is called back with a response
gets the message as it came: it is taken out of the exchange before the policy is asked
(`messages_as_left`). -/

namespace ServiceBus.Command

open Work

variable {σ : Type} (env : Environment σ) {c : Command} {role : Role} {scope : Scope}
  {e : Exchange} {message : Message}

/-- Whether a leg brings something in for the local participant. -/
def bringsIn : Role → Scope → Bool
  | .receiver, .request | .sender, .response => true
  | .sender, .request | .receiver, .response => false

/-- Whatever the policy has been asked about that came in, it has accepted with this message as
the output and without a fault. -/
def LeftAs (message : Message) (policies : List Call) : Prop :=
  ∀ e₀ r s ruling, bringsIn r s = true → .policy e₀ r s ruling ∈ policies →
    ruling.violation = none ∧ ruling.exchange.fault = none ∧ ruling.exchange.output = some message

theorem LeftAs.nil : LeftAs message [] := fun _ _ _ _ _ hmem => absurd hmem List.not_mem_nil

theorem LeftAs.append {policies policies' : List Call} (h : LeftAs message policies)
    (h' : LeftAs message policies') : LeftAs message (policies ++ policies') := by
  intro e₀ r s ruling hin hmem
  rcases List.mem_append.mp hmem with hmem | hmem
  · exact h e₀ r s ruling hin hmem
  · exact h' e₀ r s ruling hin hmem

theorem LeftAs.accepted {e' : Exchange} (h : e'.payload = .ok message) :
    LeftAs message [.policy e role scope ⟨e', none⟩] := by
  intro e₀ r s ruling _ hmem
  cases List.mem_singleton.mp hmem
  exact ⟨rfl, e'.slots_of_payload h⟩

/-- The policy has not been asked about anything that came in. -/
theorem LeftAs.of_asked {l : Leg σ} (h : l.AskedAs role scope) (hin : bringsIn role scope = false) :
    LeftAs message (callsOf [.policy] l.trace) := by
  intro e₀ r s ruling hr hmem
  obtain ⟨rfl, rfl⟩ := h.asked e₀ r s ruling hmem
  rw [hin] at hr
  cases hr

/-! ## A caller that waits -/

/-- What a caller reads off the end of a course, it can read off the end of the work. -/
theorem reply_work_of_course {l : Leg σ}
    (h : reply (c.course env role scope l) = .ok message) :
    reply (work env c.variant role scope l) = .ok message := by
  obtain ⟨-, hfailure, hpayload⟩ := reply_eq_ok h
  rw [course_exchange] at hpayload
  rw [course_eq_settle] at hfailure
  obtain ⟨hok, hwork⟩ := (settle_failure_eq_none_iff env).mp hfailure
  simp only [reply, hok, hwork, hpayload]

section Reply

variable (bus : Bus σ) (supply : Supply)

/-- A caller of a receiver's request gets what the policy has left. -/
theorem leftAs_request (h : reply (work env c.variant .receiver .request
      (c.opening .receiver .request e bus supply)) = .ok message) :
    LeftAs message (callsOf [.policy] (work env c.variant .receiver .request
      (c.opening .receiver .request e bus supply)).2.trace) := by
  have hfind := does_resolveHandler (c.opening .receiver .request e bus supply)
  cases hh : (c.opening .receiver .request e bus supply).participant? with
  | none =>
      rw [work_request_of_none env hh] at h
      cases h
  | some handler =>
      rw [work_request_of_some env hh] at h ⊢
      obtain ⟨e', hpolicies, hpayload⟩ := accepted_of_reply_incomingRequest env c.variant h
      rw [hpolicies, hfind.callsOf (by decide)]
      exact LeftAs.nil.append (.accepted hpayload)

/-- A caller of a sender's response gets what the policy has left. -/
theorem leftAs_response {l : Leg σ} (hl : callsOf [.policy] l.trace = [])
    (h : reply (incomingResponse env c.variant l) = .ok message) :
    LeftAs message (callsOf [.policy] (incomingResponse env c.variant l).2.trace) := by
  have hfault : LeftAs message (callsOf [.policy] (takeFault env l).2.trace) := by
    rw [(does_takeFault env l).callsOf (by decide), hl]
    exact .nil
  cases hv : c.variant with
  | oneWay => exact hfault
  | callback => exact hfault
  | requestResponse sync =>
      rw [hv] at h
      obtain ⟨e', hpolicies, hpayload⟩ := accepted_of_reply_takeResponse env sync h
      show LeftAs message (callsOf [.policy] (takeResponse env sync l).2.trace)
      rw [hpolicies, hl]
      exact LeftAs.nil.append (.accepted hpayload)

/-- A caller that waits for a response gets what the policy has left of it. -/
theorem leftAs_callAndWait {l : Leg σ} (hl : l.AskedAs .sender .request)
    (h : reply (callAndWait env l) = .ok message) :
    LeftAs message (callsOf [.policy] (callAndWait env l).2.trace) ∧
      ∃ e₀ e', .policy e₀ .sender .response ⟨e', none⟩ ∈
        callsOf [.policy] (callAndWait env l).2.trace := by
  have hx := callAndWait_of_ok env (reply_eq_ok h).1
  have hsteps := steps_awaiting env l
  have hrole : (awaiting env l).role = .sender := hsteps.role.trans hl.role
  have hscope : (awaiting env l).scope = .response := rfl
  rw [hx] at h ⊢
  obtain ⟨e', hpolicies, hpayload⟩ := accepted_of_reply_takeResponse env true h
  rw [hpolicies, policies_awaiting, hl.role, hl.scope, hrole, hscope]
  refine ⟨?_, _, e', List.mem_append_right _ (List.mem_singleton_self _)⟩
  -- the policy has been asked about the request as well, which brings nothing in
  have hsent : LeftAs message
      (callsOf [.policy] l.trace ++ [.policy l.exchange .sender .request (l.ruling env)]) := by
    refine (LeftAs.of_asked hl rfl).append fun e₀ r s ruling hr hmem => ?_
    cases List.mem_singleton.mp hmem
    cases hr
  exact hsent.append (.accepted hpayload)

end Reply

section Ready

variable (h : c.ready = .ok (role, scope, e)) (bus : Bus σ) (supply : Supply)

include h

/-- A caller gets what the policy has left of anything that came in, and a caller that waits for a
response gets nothing that the policy has not accepted. -/
theorem leftAs_of_callBlocking (hok : (c.callBlocking env bus supply).result = .ok message) :
    LeftAs message (callsOf [.policy] (c.callBlocking env bus supply).trace) ∧
      (role = .sender → c.variant = .requestResponse true → ∃ e₀ e',
        .policy e₀ .sender .response ⟨e', none⟩ ∈
          callsOf [.policy] (c.callBlocking env bus supply).trace) := by
  have htrace : (c.callBlocking env bus supply).trace =
      (c.course env role scope (c.opening role scope e bus supply)).2.trace :=
    execute_trace env h bus supply
  have hasked := asked_course env c role scope e bus supply
  have hnone : callsOf [.policy] (c.opening role scope e bus supply).trace = [] := rfl
  rw [callBlocking_eq_reply env h] at hok
  have hreply := reply_work_of_course env hok
  rw [htrace]
  cases role with
  | receiver =>
      refine ⟨?_, fun hr => by cases hr⟩
      cases scope with
      | request =>
          rw [callsOf_course env c _ _ _ (by decide) (by decide)]
          exact leftAs_request env bus supply hreply
      | response =>
          refine .of_asked (hasked ?_) rfl
          cases c.variant <;> simp [deeds]
  | sender =>
      cases scope with
      | response =>
          rw [callsOf_course env c _ _ _ (by decide) (by decide)]
          refine ⟨leftAs_response env hnone hreply, fun _ hv => ?_⟩
          rw [work_response env hv] at hreply ⊢
          obtain ⟨e', hpolicies, -⟩ := accepted_of_reply_takeResponse env true hreply
          rw [hpolicies]
          exact ⟨_, e', List.mem_append_right _ (List.mem_singleton_self _)⟩
      | request =>
          have hopen : (c.opening .sender .request e bus supply).AskedAs .sender .request :=
            ⟨rfl, rfl, fun _ _ _ _ hmem => absurd hmem List.not_mem_nil⟩
          cases hv : c.variant with
          | requestResponse sync =>
              cases sync with
              | true =>
                  rw [callsOf_course env c _ _ _ (by decide) (by decide), hv]
                  rw [hv] at hreply
                  obtain ⟨hleft, haccepted⟩ := leftAs_callAndWait env hopen hreply
                  exact ⟨hleft, fun _ _ => haccepted⟩
              | false =>
                  exact ⟨.of_asked (hasked (by rw [hv]; decide)) rfl, fun _ hs => by cases hs⟩
          | oneWay => exact ⟨.of_asked (hasked (by rw [hv]; decide)) rfl, fun _ hs => by cases hs⟩
          | callback => exact ⟨.of_asked (hasked (by rw [hv]; decide)) rfl, fun _ hs => by cases hs⟩

end Ready

/-- Where messages are taken from that a policy may have changed. The message of a request that a
receiver's participant gets is in the input slot as the policy has left it, and what a caller
gets of anything that came in is in the output slot as the policy has left it. The message of a
response that a sender's participant is called back with is the one that came, and so it is what
the policy has left only if the policy has left it as it was. -/
theorem messages_as_left (h : c.ready = .ok (role, scope, e)) (bus : Bus σ) (supply : Supply) :
    let x := c.execute env bus supply
    let y := c.callBlocking env bus supply
    (role = .receiver → scope = .request → ∀ handler incoming failure,
      .handleMessage handler incoming failure ∈ callsOf callbackKinds x.trace →
        ∃ e', callsOf [.policy] x.trace = [.policy e .receiver .request ⟨e', none⟩] ∧
          e'.input = some incoming.message) ∧
    (∀ message, y.result = .ok message → LeftAs message (callsOf [.policy] y.trace) ∧
      (role = .sender → c.variant = .requestResponse true →
        ∃ e₀ e', .policy e₀ .sender .response ⟨e', none⟩ ∈ callsOf [.policy] y.trace)) ∧
    (role = .sender → scope = .response → c.variant = .requestResponse false →
      ∀ handler incoming failure,
      .handleMessage handler incoming failure ∈ callsOf callbackKinds x.trace →
        ∃ e', callsOf [.policy] x.trace = [.policy e .sender .response ⟨e', none⟩] ∧
          e.inbound .response = some incoming.message ∧
          (e'.inbound .response = some incoming.message ↔
            e'.inbound .response = e.inbound .response)) := by
  intro x y
  refine ⟨?_, fun message hok => leftAs_of_callBlocking env h bus supply hok, ?_⟩
  · rintro rfl rfl handler incoming failure hmem
    exact (execute_request_course env bus supply h).message_of_mem hmem
  · rintro rfl rfl hv handler incoming failure hmem
    have hnone : callsOf callbackKinds (c.opening .sender .response e bus supply).trace = [] := rfl
    have hcalls : ∀ {kinds : List CallKind}, .notify ∉ kinds → .refuse ∉ kinds →
        callsOf kinds x.trace = callsOf kinds
          (takeResponse env false (c.opening .sender .response e bus supply)).2.trace := by
      intro kinds hn hr
      rw [← work_response env hv, ← callsOf_execute env h bus supply hn hr]
    rw [hcalls (by decide) (by decide)] at hmem
    obtain ⟨e', hpolicies, -, hi⟩ := message_of_takeResponse env hnone hmem
    have hbrought : e.inbound .response = some incoming.message := hi
    refine ⟨e', ?_, hbrought, by rw [hbrought]⟩
    rw [hcalls (by decide) (by decide), hpolicies]
    rfl

section Books

open Rehearsal

/-- A policy that puts a mark behind every message. -/
def marking : PolicyScript := .rules (some "!") {} []

/-- A caller that waits for the price of a book gets it with the mark. -/
theorem messages_as_left_price :
    let bus : Bus Channel :=
      { parties := { sendSync := [{ change := { output := some (some { body := "12" }) } }] } }
    let y := bookCall.callBlocking (environment ∅ marking) bus .counting
    y.result = .ok { body := "12!" } ∧ LeftAs { body := "12!" } (callsOf [.policy] y.trace) := by
  intro bus y
  have hok : y.result = .ok { body := "12!" } := rfl
  exact ⟨hok, ((messages_as_left (environment ∅ marking) rfl bus .counting).2.1 _ hok).1⟩

/-- A shop that is called back with the price gets it without the mark. -/
theorem price_without_mark :
    let x := (bookResponse bookAnswer.exchange).execute (environment ∅ marking) { parties := {} }
      .counting
    ∃ e' incoming, callsOf [.policy] x.trace =
        [.policy bookAnswer.exchange .sender .response ⟨e', none⟩] ∧
      e'.output = some { body := "12!" } ∧
      callsOf callbackKinds x.trace = [.handleMessage "shop" incoming none] ∧
      incoming.message = { body := "12" } :=
  ⟨_, _, rfl, rfl, rfl, rfl⟩

end Books

end ServiceBus.Command
