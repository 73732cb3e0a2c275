import ServiceBus.Proofs.Command.Execution
import ServiceBus.Proofs.Leg.Outcome
import ServiceBus.Proofs.Leg.Outgoing

set_option autoImplicit false

/-! # Waiting for a response and being called back

Whoever waits for a response gets what the exchange comes to (`callBlocking_result`), and a
participant that is called back is told the same (`told_execute`): the two agree on every
exchange that the transport may leave. They differ on one kind of exchange only, which holds a
message in its input slot and nothing else. To the participant this message is delivered; a
caller that waits is told that there was no response. -/

namespace ServiceBus.Command

open Work

variable {σ : Type} (env : Environment σ) {c : Command} {e : Exchange}
  {v : Option PolicyViolation}

/-! ## A caller that waits -/

/-- Settling a leg makes no difference to a caller that waits: a failure is returned or recorded. -/
theorem reply_settle (rethrow : Bool) (x : Except BusError Unit × Leg σ) :
    reply (settle env rethrow .sender x.1 x.2) = reply x := by
  obtain ⟨r, l⟩ := x
  have hsettle := does_settle_sender env rethrow r l
  have hfailure := settle_failure env rethrow .sender r l
  cases r with
  | ok _ =>
      have hok : (settle env rethrow .sender (.ok ()) l).1 = .ok () := rfl
      rw [reply, hok, hfailure, hsettle.exchange (by decide)]
      rfl
  | error err =>
      have hreturned : (settle env rethrow .sender (.error err) l).1 = .error err ∨
          (settle env rethrow .sender (.error err) l).1 = .ok () := by
        rw [settle_eq, conclude, bind_leg]
        cases (close env (.error err) (now l).2).2.scope with
        | response => exact .inl rfl
        | request => cases rethrow <;> simp
      rcases hreturned with h | h
      · rw [reply, h]
        rfl
      · rw [reply, h, hfailure]
        rfl

theorem callBlocking_eq_reply {role : Role} {scope : Scope} (h : c.ready = .ok (role, scope, e))
    (bus : Bus σ) (supply : Supply) :
    (c.callBlocking env bus supply).result =
      reply (c.course env role scope (c.opening role scope e bus supply)) := by
  have hfailure := execute_failure env h bus supply
  have hexchange := execute_exchange env h bus supply
  rw [callBlocking]
  simp only [execute_result env h, payload, hfailure, hexchange, reply]
  cases (c.course env role scope (c.opening role scope e bus supply)).1 with
  | error err => rfl
  | ok _ =>
      cases (c.course env role scope (c.opening role scope e bus supply)).2.failure <;> rfl

/-- When a request is answered in time, its caller gets what comes of taking the answer as a
response; until then, the policy has been asked about nothing but the request. -/
theorem callBlocking_of_answer (h : c.ready = .ok (.sender, .request, e))
    (hvariant : c.variant = .requestResponse true) (bus : Bus σ) (supply : Supply)
    {sent : Exchange} {limit : Nat} {a : Answer}
    (hsent : .sendSync sent limit a ∈ callsOf [.sendSync] (c.callBlocking env bus supply).trace)
    (hok : a.failure? limit = none) :
    ∃ m : Leg σ, (c.callBlocking env bus supply).result = reply (takeResponse env true m) ∧
      callsOf [.policy] (c.callBlocking env bus supply).trace =
        callsOf [.policy] (takeResponse env true m).2.trace ∧
      m.exchange = a.exchange ∧ m.role = .sender ∧ m.scope = .response ∧ m.failure = none := by
  have htrace : (c.callBlocking env bus supply).trace =
      (c.course env .sender .request (c.opening .sender .request e bus supply)).2.trace :=
    execute_trace env h bus supply
  have hrole : (c.opening .sender .request e bus supply).role = .sender := rfl
  have hnone : callsOf [.sendSync] (c.opening .sender .request e bus supply).trace = [] := rfl
  have hfailure : (c.opening .sender .request e bus supply).failure = none := rfl
  rw [callBlocking_eq_reply env h]
  rw [htrace] at hsent ⊢
  -- from here on, only these facts about the opening matter
  generalize c.opening .sender .request e bus supply = l at hrole hnone hfailure hsent ⊢
  have hwork : work env c.variant .sender .request l = callAndWait env l := by
    rw [hvariant]
    rfl
  rw [callsOf_course env c _ _ _ (by decide) (by decide), hwork] at hsent
  rw [callsOf_course env c _ _ _ (by decide) (by decide), hwork]
  obtain ⟨m, hx, hme, hmr, hms, hmf⟩ := callAndWait_of_answer env hnone hsent hok
  refine ⟨m, ?_, by rw [hx], hme, hmr.trans hrole, hms, hmf.trans hfailure⟩
  rw [course_eq_settle, hwork, reply_settle env c.rethrow (callAndWait env l), hx]

/-- A caller whose request has been answered in time gets what the response comes to. -/
theorem callBlocking_result (h : c.ready = .ok (.sender, .request, e))
    (hvariant : c.variant = .requestResponse true) (bus : Bus σ) (supply : Supply)
    {sent : Exchange} {limit : Nat} {a : Answer}
    (hsent : .sendSync sent limit a ∈ callsOf [.sendSync] (c.callBlocking env bus supply).trace)
    (hok : a.failure? limit = none)
    (hj : Judged a.exchange v (c.callBlocking env bus supply).trace) :
    (c.callBlocking env bus supply).result = a.exchange.awaited v := by
  obtain ⟨m, hresult, hpolicies, hme, hmr, hms, hmf⟩ :=
    callBlocking_of_answer env h hvariant bus supply hsent hok
  rw [Judged, hpolicies, ← hme] at hj
  rw [hresult, ← hme]
  exact reply_takeResponse env hms hmf (rulesAs_of_judged env true hmr hms hj)

/-- A caller whose request has been answered with the report of a failure gets this failure,
whatever the policy would say. -/
theorem callBlocking_of_report (h : c.ready = .ok (.sender, .request, e))
    (hvariant : c.variant = .requestResponse true) (bus : Bus σ) (supply : Supply)
    {sent : Exchange} {limit : Nat} {a : Answer}
    (hsent : .sendSync sent limit a ∈ callsOf [.sendSync] (c.callBlocking env bus supply).trace)
    (hok : a.failure? limit = none) (he : a.exchange.isError = false) {message : Message}
    (hi : a.exchange.inbound .response = some message) {remote : BusError}
    (hf : BusError.ofFault? message.body = some remote) :
    (c.callBlocking env bus supply).result = .error remote := by
  obtain ⟨m, hresult, -, hme, -, hms, -⟩ :=
    callBlocking_of_answer env h hvariant bus supply hsent hok
  rw [hresult, takeResponse_of_report env (hme ▸ he) (by rw [hme, hms, hi]) hf,
    reply_concludeResponse_some]

/-! ## A participant that is called back -/

/-- A participant that is called back is told what the response comes to. -/
theorem told_execute (h : c.ready = .ok (.sender, .response, e))
    (hvariant : c.variant = .requestResponse false) (bus : Bus σ) (supply : Supply)
    {handler : HandlerName} (hh : c.participant? .sender e bus = some handler)
    (hu : ∀ message, e.inbound .response = some message →
      ∀ s, message.notUnderstood? (env.parties.understood handler s) = none)
    (hj : Judged e v (c.execute env bus supply).trace) :
    Told handler (c.opening .sender .response e bus supply) (e.outcome v)
      (callsOf callbackKinds (c.execute env bus supply).trace) := by
  rw [execute_trace env h] at hj ⊢
  have hl := (opening_participant? c .sender .response e bus supply).trans hh
  have hle : (c.opening .sender .response e bus supply).exchange = e := rfl
  have hrole : (c.opening .sender .response e bus supply).role = .sender := rfl
  have hscope : (c.opening .sender .response e bus supply).scope = .response := rfl
  have hnone : callsOf callbackKinds (c.opening .sender .response e bus supply).trace = [] := rfl
  generalize c.opening .sender .response e bus supply = l at hl hle hrole hscope hnone hj ⊢
  subst hle
  have hwork := work_response env hvariant l
  rw [Judged, callsOf_course env c _ _ _ (by decide) (by decide), hwork] at hj
  rw [callsOf_course env c _ _ _ (by decide) (by decide), hwork]
  obtain ⟨calls, htold, hcalls⟩ := tells_takeResponse env hrole hscope hl hu hj
  rw [hcalls, hnone]
  exact htold

/-! ## Waiting and being called back -/

/-- A caller that waits for a response and a participant that is called back with it agree. A
message that the caller gets is what the participant gets, and nothing else. Of a failure that
the caller gets, the participant is told either nothing or exactly this failure; only a message
in the input slot, when there is no answer beside it, is no response to the caller and yet
delivered to the participant. -/
theorem callBlocking_agrees_with_callback {σ' : Type} (env' : Environment σ') {c' : Command}
    {a : Answer} (h : c.ready = .ok (.sender, .request, e))
    (hvariant : c.variant = .requestResponse true)
    (h' : c'.ready = .ok (.sender, .response, a.exchange))
    (hvariant' : c'.variant = .requestResponse false) (bus : Bus σ) (supply : Supply)
    (bus' : Bus σ') (supply' : Supply) {sent : Exchange} {limit : Nat}
    (hsent : .sendSync sent limit a ∈ callsOf [.sendSync] (c.callBlocking env bus supply).trace)
    (hok : a.failure? limit = none) {handler : HandlerName}
    (hh : c'.participant? .sender a.exchange bus' = some handler)
    (hu : ∀ message, a.exchange.inbound .response = some message →
      ∀ s, message.notUnderstood? (env'.parties.understood handler s) = none)
    (hj : Judged a.exchange v (c.callBlocking env bus supply).trace)
    (hj' : Judged a.exchange v (c'.execute env' bus' supply').trace) :
    let result := (c.callBlocking env bus supply).result
    let calls := callsOf callbackKinds (c'.execute env' bus' supply').trace
    (∀ message, result = .ok message → ∃ incoming failure, incoming.message = message ∧
      calls = [.handleMessage handler incoming failure]) ∧
    (∀ err, result = .error err →
      (calls = [] ∨ ∃ context failure, calls = [.handleError handler err context failure]) ∨
      (a.exchange.response = none ∧ err = a.exchange.noResponse ∧
        ∃ incoming failure, a.exchange.input = some incoming.message ∧
          calls = [.handleMessage handler incoming failure])) := by
  intro result calls
  have hresult : result = a.exchange.awaited v :=
    callBlocking_result env h hvariant bus supply hsent hok hj
  have htold := told_execute env' h' hvariant' bus' supply' hh hu hj'
  constructor
  · intro message hm
    have ho := Exchange.outcome_of_awaited_ok (hresult.symm.trans hm)
    rw [ho] at htold
    generalize hc : callsOf callbackKinds (c'.execute env' bus' supply').trace = told at htold
    cases htold with
    | message message failure => exact ⟨_, failure, rfl, hc⟩
  · intro err herr
    generalize hc : callsOf callbackKinds (c'.execute env' bus' supply').trace = told at htold
    rcases Exchange.outcome_of_awaited_error (hresult.symm.trans herr) with ho | hother
    · rw [ho] at htold
      cases htold with
      | error e failure => exact .inl (.inr ⟨_, failure, hc⟩)
      | nothing e hn => exact .inl (.inl hc)
    · obtain ⟨hr, he, message, hi, ho⟩ := hother
      rw [ho] at htold
      cases htold with
      | message message failure => exact .inr ⟨hr, he, _, failure, hi, hc⟩

section Books

open Rehearsal

/-- The order of a book, answered with a price. -/
def bookAnswer : Answer :=
  { exchange := { bookOrder with output := some { body := "12" } }, completion := .after 0 none }

/-- A command that orders a book and waits for the answer. -/
def bookCall : Command :=
  { variant := .requestResponse true, role := some .sender, scope := some .request
    exchange := some bookOrder }

/-- A command that takes a response to such an order. -/
def bookResponse (e : Exchange) : Command :=
  { variant := .requestResponse false, role := some .sender, scope := some .response
    exchange := some e, handler := some "shop" }

/-- A price that the caller gets is the one that the shop is told. -/
theorem callBlocking_agrees_with_callback_book :
    let env := environment ∅ .permissive
    let bus : Bus Channel :=
      { parties := { sendSync := [{ change := { output := some (some { body := "12" }) } }] } }
    let x := bookCall.callBlocking env bus .counting
    let y := (bookResponse bookAnswer.exchange).execute env { parties := {} } .counting
    x.result = .ok { body := "12" } ∧ ∃ incoming failure, incoming.message = { body := "12" } ∧
      callsOf callbackKinds y.trace = [.handleMessage "shop" incoming failure] := by
  intro env bus x y
  have hresult : x.result = .ok { body := "12" } := rfl
  have hsent : callsOf [.sendSync] x.trace = [.sendSync bookOrder 30000 bookAnswer] := rfl
  have hx : callsOf [.policy] x.trace =
      [.policy bookOrder .sender .request ⟨bookOrder, none⟩,
        .policy bookAnswer.exchange .sender .response ⟨bookAnswer.exchange, none⟩] := rfl
  have hy : callsOf [.policy] y.trace =
      [.policy bookAnswer.exchange .sender .response ⟨bookAnswer.exchange, none⟩] := rfl
  have hj : Judged bookAnswer.exchange none x.trace := by
    intro ruling hr
    rw [hx] at hr
    simpa using hr
  have hj' : Judged bookAnswer.exchange none y.trace := by
    intro ruling hr
    rw [hy] at hr
    simpa using hr
  have hu : ∀ message, bookAnswer.exchange.inbound .response = some message →
      ∀ s, message.notUnderstood? (env.parties.understood "shop" s) = none := by
    intro message hi s
    cases hi
    rfl
  exact ⟨hresult, (callBlocking_agrees_with_callback env env rfl rfl rfl rfl bus .counting
    { parties := {} } .counting (hsent ▸ List.mem_singleton_self _) rfl rfl hu hj hj').1 _ hresult⟩

/-- An order that comes back as it was is no response to a caller that waits, and yet the shop is
told about the book. -/
theorem bookOrder_returned :
    let env := environment ∅ .permissive
    let x := bookCall.callBlocking env { parties := {} } .counting
    let y := (bookResponse bookOrder).execute env { parties := {} } .counting
    callsOf [.sendSync] x.trace = [.sendSync bookOrder 30000 ⟨bookOrder, .after 0 none⟩] ∧
      x.result = .error bookOrder.noResponse ∧
      ∃ incoming, callsOf callbackKinds y.trace = [.handleMessage "shop" incoming none] :=
  ⟨rfl, rfl, _, rfl⟩

end Books

end ServiceBus.Command
