import ServiceBus.Proofs.Command.Returning
import ServiceBus.Proofs.Command.Waiting
import ServiceBus.Proofs.Engine.Pending

set_option autoImplicit false

/-! # What the engine returns

The engine returns what comes of the work on a request, whether its command returns failures or
not: the identifier of the message that has been sent (`sendOneWay_result`), or what the response
comes to for a caller that waits (`callBlocking_result`). The setting for new commands decides
about neither, and about what is done it decides nothing at all (`rethrow_decides_result`). -/

namespace ServiceBus.Engine

open Command Work

variable {σ : Type} (env : Environment σ)

/-- What is returned of the execution of a request that nobody waits for. -/
def sent (id : Uuid) (x : Execution σ Unit) : Except BusError Uuid :=
  match x.result, x.command.failure with
  | .error e, _ => .error e
  | .ok (), some e => .error e
  | .ok (), none => .ok id

/-- A failure comes out, whether it has been returned or recorded. -/
theorem sent_eq (id : Uuid) {x : Execution σ Unit} {result : Except BusError Unit}
    (h : (∃ err, x.result = .error err ∧ result = .error err) ∨
      x.result = .ok () ∧ x.command.failure = failureOf result) :
    sent id x = result.map fun _ => id := by
  rcases h with ⟨err, hx, rfl⟩ | ⟨hx, hfailure⟩
  · rw [sent, hx]
    rfl
  · rw [sent, hx, hfailure]
    cases result <;> rfl

section Request

variable (o : Operation) (message : Message) (context : CallContext) (bus : Bus σ)
  (supply : Supply)

/-- The command of a request for an operation, whose caller waits for the response or not. -/
def request (sync : Bool) : Command :=
  prepare env (Variant.ofOperation o sync) .sender .request (newExchange o context message supply).1

/-- The execution of this command. -/
def requested (sync : Bool) : Execution σ Unit :=
  (request env o message context supply sync).execute env bus
    (newExchange o context message supply).2

/-- The leg of the request, as its command begins it. -/
def asking (sync : Bool) : Leg σ :=
  (request env o message context supply sync).opening .sender .request
    (newExchange o context message supply).1 bus (newExchange o context message supply).2

/-- The acts of a request that nobody waits for. -/
theorem does_sending :
    Does sendingActs (work env (Variant.ofOperation o false) .sender .request) := by
  cases hv : Variant.ofOperation o false with
  | oneWay => exact does_sendOneWay env
  | callback => exact does_sendOneWay env
  | requestResponse sync =>
      obtain ⟨-, rfl⟩ := ofOperation_eq_iff.mp hv
      exact does_sendRequest env

/-- A failure to send is returned, and otherwise the identifier of the message. -/
theorem sendOneWay_result :
    (sendOneWay env o message context bus supply).result =
      (work env (Variant.ofOperation o false) .sender .request
        (asking env o message context bus supply false)).1.map fun _ => context.messageId := by
  have hready : (request env o message context supply false).ready =
      .ok (.sender, .request, (newExchange o context message supply).1) := rfl
  have hnone := (does_sending env o (asking env o message context bus supply false)).failure
    (by decide)
  exact sent_eq context.messageId
    (execute_outcome env hready bus (newExchange o context message supply).2 hnone)

/-- A caller that waits gets what the work comes to. -/
theorem callBlocking_result :
    (callBlocking env o message context bus supply).result =
      reply (work env (Variant.ofOperation o true) .sender .request
        (asking env o message context bus supply true)) := by
  have hready : (request env o message context supply true).ready =
      .ok (.sender, .request, (newExchange o context message supply).1) := rfl
  have hreply := callBlocking_eq_reply env hready bus (newExchange o context message supply).2
  rw [course_eq_settle, reply_settle] at hreply
  exact hreply

end Request

/-! ## The flag -/

/-- The executions of a request do the same for both values of the setting. -/
theorem sameEffects_requested (o : Operation) (message : Message) (context : CallContext)
    (bus : Bus σ) (supply : Supply) (sync rethrow rethrow' : Bool) :
    (requested (env.rethrowing rethrow) o message context bus supply sync).SameEffects
      (requested (env.rethrowing rethrow') o message context bus supply sync) := by
  have hrequested : ∀ b, requested (env.rethrowing b) o message context bus supply sync =
      ((request env o message context supply sync).set (.rethrow b)).execute env bus
        (newExchange o context message supply).2 := fun b => execute_rethrowing env b _ bus _
  have hready : (request env o message context supply sync).ready =
      .ok (.sender, .request, (newExchange o context message supply).1) := rfl
  rw [hrequested, hrequested]
  exact sameEffects_execute env hready bus _ rethrow rethrow'

/-- Whether commands return the failures of outgoing legs decides what their execution returns,
and nothing else. The two executions of a command do the same, and they return the same unless a
leg that brings nothing in has failed, a sender's request or a receiver's response: then the
failure is returned or not. What is returned as a failure is what is recorded. A failure of the
response that a waiting caller's request has moved on to is returned in any case. The engine
returns the same whether new commands are set to return failures or not. -/
theorem rethrow_decides_result (bus : Bus σ) (supply : Supply) :
    (∀ (c : Command) (role : Role) (scope : Scope) (e : Exchange),
      c.ready = .ok (role, scope, e) →
      let x := (c.set (.rethrow true)).execute env bus supply
      let x' := (c.set (.rethrow false)).execute env bus supply
      x.SameEffects x' ∧
      (x'.result = x.result ∨ bringsIn role scope = false ∧
        ∃ err, x.command.failure = some err ∧ x.result = .error err ∧ x'.result = .ok ()) ∧
      (∀ err, x.result = .error err → x.command.failure = some err) ∧
      (∀ err, x'.result = .error err → x'.command.failure = some err) ∧
      (c.variant = .requestResponse true → role = .sender → scope = .request →
        x.command.scope = some .response →
        let taken := takeResponse env true (awaiting env (c.opening role scope e bus supply))
        ∀ err, taken.1 = .error err → x.result = .error err ∧ x'.result = .error err)) ∧
    (∀ (o : Operation) (message : Message) (context : CallContext),
      let x := sendOneWay (env.rethrowing true) o message context bus supply
      let x' := sendOneWay (env.rethrowing false) o message context bus supply
      x'.result = x.result ∧ x.SameEffects x') ∧
    (∀ (o : Operation) (message : Message) (context : CallContext),
      let x := callBlocking (env.rethrowing true) o message context bus supply
      let x' := callBlocking (env.rethrowing false) o message context bus supply
      x'.result = x.result ∧ x.SameEffects x') := by
  refine ⟨fun c role scope e h => ?_, fun o message context => ?_, fun o message context => ?_⟩
  · intro x x'
    have hsame := sameEffects_execute env h bus supply true false
    have hr : (c.set (.rethrow true)).ready = .ok (role, scope, e) := h
    have hr' : (c.set (.rethrow false)).ready = .ok (role, scope, e) := h
    refine ⟨hsame, execute_rethrow env h bus supply,
      fun err => failure_of_execute_error env hr bus supply,
      fun err => failure_of_execute_error env hr' bus supply, ?_⟩
    rintro hv rfl rfl hscope taken err herr
    have hscope' : x'.command.scope = some .response := hsame.scope.trans hscope
    exact ⟨(execute_of_response env hr hv bus supply hscope).trans herr,
      (execute_of_response env hr' hv bus supply hscope').trans herr⟩
  · obtain ⟨hcommand, hbus, hsupply, htrace⟩ :=
      sameEffects_requested env o message context bus supply false true false
    refine ⟨?_, hcommand, hbus, hsupply, htrace⟩
    rw [sendOneWay_result, sendOneWay_result, work_rethrowing, work_rethrowing]
    rfl
  · obtain ⟨hcommand, hbus, hsupply, htrace⟩ :=
      sameEffects_requested env o message context bus supply true true false
    refine ⟨?_, hcommand, hbus, hsupply, htrace⟩
    rw [callBlocking_result, callBlocking_result, work_rethrowing, work_rethrowing]
    rfl

section Books

open Rehearsal

/-- A call for a book that does not get through fails or not, as it is set; a call that comes back
marked as failed fails in any case. -/
theorem rethrow_decides_result_book :
    let env := environment ∅ .permissive
    let down : BusError := .infrastructure "line is down"
    let lost : Bus Channel := { parties := { sendSync := [{ failure := some down }] } }
    let spoilt : Bus Channel :=
      { parties := { sendSync := [{ change := { failure := some (.transport "sold out") } }] } }
    let x := (bookCall.set (.rethrow true)).execute env lost .counting
    let x' := (bookCall.set (.rethrow false)).execute env lost .counting
    let y := (bookCall.set (.rethrow true)).execute env spoilt .counting
    let y' := (bookCall.set (.rethrow false)).execute env spoilt .counting
    bookCall.ready = .ok (.sender, .request, bookOrder) ∧
      x.SameEffects x' ∧ x.result = .error down ∧ x'.result = .ok () ∧
      x.command.failure = some down ∧ y.command.scope = some .response ∧
      ∃ err, y.result = .error err ∧ y'.result = .error err := by
  intro env down lost spoilt x x' y y'
  have hready : bookCall.ready = .ok (.sender, .request, bookOrder) := rfl
  obtain ⟨hsame, -, hrecorded, -⟩ :=
    (rethrow_decides_result env lost .counting).1 bookCall _ _ _ hready
  obtain ⟨-, -, -, -, hresponse⟩ :=
    (rethrow_decides_result env spoilt .counting).1 bookCall _ _ _ hready
  have hscope : y.command.scope = some .response := rfl
  have hresult : x.result = .error down := rfl
  exact ⟨hready, hsame, hresult, rfl, hrecorded _ hresult, hscope, _,
    hresponse rfl rfl rfl hscope _ rfl⟩

end Books

end ServiceBus.Engine
