import ServiceBus.Proofs.Command.Waiting
import ServiceBus.Proofs.Engine.Pending
import ServiceBus.Proofs.Leg.Calls
import ServiceBus.Proofs.Leg.Rewriting

set_option autoImplicit false

/-! # Calls that wait for their response

What a call comes to that waits for its response is decided by three answers: the verdict of the
policy on the request, the answer of the transport, and the verdict of the policy on the response
(`Hearing`). The parties give them one after the other, each in the state in which it finds the
parties (`hearing`). The call comes to the outcome of the three answers, wherever a failure among
them is noticed and whether commands are set to return failures or not (`callBlocking_exact`).

The policy is taken to leave every exchange as it is. If it did not, the caller would read the
slots as the policy has left them, but a fault document in them as the transport has: what the
response says would then not be one exchange any more. -/

namespace ServiceBus

variable {σ : Type}

/-- The policy leaves every exchange as it is. -/
structure Parties.LeaveExchanges (p : Parties σ) : Prop where
  enforce (e : Exchange) (role : Role) (agreed : Option AgreedPolicy) (scope : Scope) (s : σ) :
    (p.enforce e role agreed scope s).1.exchange = e

/-! ## Three answers -/

/-- What a response that the transport has left comes to for a caller that waits, under the
verdict `v` of the policy. -/
def Exchange.reading (e : Exchange) (v : Option PolicyViolation) : Except BusError Message :=
  if e.isError then .error e.failureError
  else
    match (e.fault.or e.output).or e.input with
    | none => .error (Work.noMessage e .response)
    | some message =>
        match BusError.ofFault? message.body, v, e.fault, e.output with
        | some remote, _, _, _ => .error remote
        | none, some violation, _, _ => .error (BusError.ofViolation violation)
        | none, none, some fault, _ => .error (BusError.ofRemote fault.body)
        | none, none, none, some output => .ok output
        | none, none, none, none => .error e.noResponse

/-- What is read off a response is what a caller that waits gets. -/
theorem Exchange.reading_eq_awaited (e : Exchange) (v : Option PolicyViolation) :
    e.reading v = e.awaited v := by
  have hinbound : e.inbound .response = (e.fault.or e.output).or e.input := rfl
  unfold reading awaited outcome payload
  rw [← hinbound]
  cases e.isError with
  | true => rfl
  | false =>
      cases hi : e.inbound .response with
      | none => rfl
      | some message =>
          cases hr : BusError.ofFault? message.body with
          | some remote => simp [hr]
          | none =>
              cases v with
              | some violation => simp [hr]
              | none =>
                  cases hf : e.fault with
                  | some fault =>
                      -- what comes in is the fault
                      have hm : fault = message := by simpa [hinbound, hf] using hi
                      simp [hr, hm]
                  | none => cases ho : e.output <;> simp [hr]

/-- What the parties say to a request whose caller waits: the verdict of the policy on it, the
answer of the transport, and the verdict of the policy on the response. -/
structure Hearing where
  request : Option PolicyViolation
  answer : Answer
  response : Option PolicyViolation

/-- What the answers come to under the time limit. -/
def Hearing.outcome (limit : Nat) (h : Hearing) : Except BusError Message :=
  match h.request, h.answer.failure? limit with
  | some violation, _ => .error (BusError.ofViolation violation)
  | none, some failure => .error failure
  | none, none => h.answer.exchange.reading h.response

/-- Only a request that the policy accepts comes to a message. -/
theorem request_of_outcome_ok {limit : Nat} {h : Hearing} {message : Message}
    (ho : h.outcome limit = .ok message) : h.request = none := by
  unfold Hearing.outcome at ho
  cases hr : h.request with
  | none => rfl
  | some violation => simp [hr] at ho

/-- The calls about a request that comes to a message, each made once: the policy judges the
request, the transport gives the answer `a`, monitoring is notified that the request is out, the
policy judges the response, the transport is told that the leg has succeeded, and monitoring is
notified that it is finished. -/
def answeredCalls (e : Exchange) (limit : Nat) (a : Answer) (failure : Option BusError)
    (sent ended : Timestamp) : List Call :=
  [.policy e .sender .request ⟨e, none⟩,
    .sendSync e limit a,
    .notify (Event.ofExchange a.exchange .sender .request .exchange .netOutPost none sent),
    .policy a.exchange .sender .response ⟨a.exchange, none⟩,
    .acknowledge a.exchange failure,
    .notify (Event.ofExchange a.exchange .sender .response .exchange .finished none ended)]

/-- The parties are heard about a request, beginning in the state `s`. Between the answer and the
second verdict, monitoring is notified at the time `time`. -/
def hearing (env : Environment σ) (e : Exchange) (time : Timestamp) (s : σ) : Hearing :=
  let asked := env.parties.enforce e .sender e.context.agreedPolicy .request s
  let sent := env.parties.sendSync e env.settings.exchange.callTimeout asked.2
  let back := sent.1.exchange
  let notified := env.parties.notify
    (Event.ofExchange back .sender .request .exchange .netOutPost none time) sent.2
  let judged :=
    env.parties.enforce back .sender back.context.agreedPolicy .response notified
  { request := asked.1.violation, answer := sent.1, response := judged.1.violation }

/-! ## The leg of the call -/

namespace Work

variable {env : Environment σ} {l : Leg σ}

variable (hleave : env.parties.LeaveExchanges)

include hleave

theorem ruling_of_leave (l : Leg σ) : l.ruling env = ⟨l.exchange, (l.ruling env).violation⟩ := by
  have hexchange : (l.ruling env).exchange = l.exchange := hleave.enforce _ _ _ _ _
  rw [← hexchange]

/-- Asking a policy that leaves the exchange does nothing else. -/
theorem applyPolicy_snd_of_leave (l : Leg σ) :
    (applyPolicy env l).2 = l.called (.policy l.exchange l.role l.scope (l.ruling env))
      (env.parties.enforce l.exchange l.role l.exchange.context.agreedPolicy l.scope
        l.bus.parties).2 := by
  have hexchange : (l.ruling env).exchange = l.exchange := hleave.enforce _ _ _ _ _
  rw [applyPolicy_snd, hexchange]
  rfl

/-- A caller that waits gets a message only out of a response that is judged, acknowledged and
done. -/
theorem calls_takeResponse_of_ok {message : Message} (hsignalled : l.signalled = false)
    (h : reply (takeResponse env true l) = .ok message) :
    (takeResponse env true l).2.closed = true ∧
      ∃ failure time, (takeResponse env true l).2.trace.map (·.call) = l.trace.map (·.call) ++
        [.policy l.exchange l.role l.scope ⟨l.exchange, none⟩,
          .acknowledge l.exchange failure,
          .notify (Event.ofExchange l.exchange l.role l.scope .exchange .finished none time)] := by
  obtain ⟨hv, taken, hx⟩ := accepted_of_reply_ok env true h
  have hgo : (letGo true l).2 = l := rfl
  rw [hgo] at hv hx
  have hruling := ruling_of_leave hleave l
  rw [hv] at hruling
  have hpolicy := applyPolicy_snd_of_leave hleave l
  have hjudged : (applyPolicy env l).2.signalled = false := by
    rw [hpolicy]
    exact hsignalled
  obtain ⟨failure, hack⟩ := trace_acknowledge env hjudged
  have hends := does_acknowledge env (applyPolicy env l).2
  rw [hx, concludeResponse_none]
  refine ⟨Bool.or_true _, failure, (acknowledge env (applyPolicy env l).2).2.supply.now.1, ?_⟩
  rw [notify, trace_notifyOf, hack, hends.exchange (by decide), hends.role,
    hends.scope (by decide), hpolicy, hruling]
  simp [Leg.called]

end Work

/-! ## The command of the call -/

namespace Command

open Work

section Course

variable {c : Command} (hv : c.variant = .requestResponse true) (env : Environment σ) (l : Leg σ)

include hv

theorem course_of_waiting :
    c.course env .sender .request l =
      settle env c.rethrow .sender (callAndWait env l).1 (callAndWait env l).2 := by
  rw [course_eq_settle, hv]
  rfl

theorem steps_course_of_waiting :
    Leg.Steps (callActs ++ .draw :: closeActs) l (c.course env .sender .request l).2 := by
  have hcall := does_callAndWait env l
  have hsettle := does_settle_sender env c.rethrow (callAndWait env l).1 (callAndWait env l).2
  rw [course_of_waiting hv]
  exact (hcall.mono (by decide)).trans (hsettle.mono (by decide))

/-- The request is handed over at most once. -/
theorem sendSync_course_of_waiting :
    (callsOf [.sendSync] (c.course env .sender .request l).2.trace).length ≤
      (callsOf [.sendSync] l.trace).length + 1 := by
  have hsettle := does_settle_sender env c.rethrow (callAndWait env l).1 (callAndWait env l).2
  rw [course_of_waiting hv, hsettle.callsOf (by decide)]
  exact atMost_callAndWait env l

end Course

variable {env : Environment σ} (hleave : env.parties.LeaveExchanges) (c : Command) (e : Exchange)
  (bus : Bus σ) (supply : Supply)

/-- What the parties say to the request of a command. -/
def heard (env : Environment σ) (e : Exchange) (bus : Bus σ) (supply : Supply) : Hearing :=
  hearing env e supply.now.2.now.1 bus.parties

include hleave

theorem answer_opening :
    (applyPolicy env (c.opening .sender .request e bus supply)).2.answer env =
      (heard env e bus supply).answer := by
  rw [applyPolicy_snd_of_leave hleave]
  rfl

theorem ruling_awaiting :
    (awaiting env (c.opening .sender .request e bus supply)).ruling env =
      ⟨(heard env e bus supply).answer.exchange, (heard env e bus supply).response⟩ := by
  rw [ruling_of_leave hleave, exchange_awaiting, answer_opening hleave]
  unfold awaiting
  rw [applyPolicy_snd_of_leave hleave, sendSync_snd]
  rfl

/-- The calls up to the response. -/
theorem calls_awaiting :
    (awaiting env (c.opening .sender .request e bus supply)).trace.map (·.call) =
      [.policy e .sender .request ⟨e, (heard env e bus supply).request⟩,
        .sendSync e env.settings.exchange.callTimeout (heard env e bus supply).answer,
        .notify (Event.ofExchange (heard env e bus supply).answer.exchange .sender .request
          .exchange .netOutPost none supply.now.2.now.1)] := by
  have hruling := ruling_of_leave hleave (c.opening .sender .request e bus supply)
  unfold awaiting
  rw [applyPolicy_snd_of_leave hleave, sendSync_snd, hruling]
  rfl

/-- What a caller reads off the end of its leg is the outcome of what the parties have said. -/
theorem reply_callAndWait :
    reply (callAndWait env (c.opening .sender .request e bus supply)) =
      (heard env e bus supply).outcome env.settings.exchange.callTimeout := by
  have hanswer := answer_opening hleave c e bus supply
  have hruling := ruling_awaiting hleave c e bus supply
  have hsteps := steps_awaiting env (c.opening .sender .request e bus supply)
  have hrequest : (heard env e bus supply).request =
      ((c.opening .sender .request e bus supply).ruling env).violation := rfl
  have hfailure : (c.opening .sender .request e bus supply).failure = none := rfl
  generalize heard env e bus supply = h at *
  generalize c.opening .sender .request e bus supply = l at *
  unfold Hearing.outcome
  cases hv : h.request with
  | some violation =>
      -- nothing is handed over, and no response is waited for
      have hp : (applyPolicy env l).1 = .error (BusError.ofViolation violation) := by
        rw [applyPolicy_fst, ← hrequest, hv]
      rw [callAndWait, bind_of_error hp]
      rfl
  | none =>
      have hp : (applyPolicy env l).1 = .ok () := by
        rw [applyPolicy_fst, ← hrequest, hv]
      cases hs : h.answer.failure? env.settings.exchange.callTimeout with
      | some failure =>
          have hsent : (sendSync env (applyPolicy env l).2).1 = .error failure := by
            rw [sendSync_fst, hanswer, hs]
          rw [callAndWait, bind_of_ok hp, bind_of_error hsent]
          rfl
      | none =>
          have hsent : (sendSync env (applyPolicy env l).2).1 = .ok () := by
            rw [sendSync_fst, hanswer, hs]
          have hexchange : (awaiting env l).exchange = h.answer.exchange := by
            rw [exchange_awaiting, hanswer]
          rw [callAndWait_of_sent env hp hsent, ← hexchange]
          rw [Exchange.reading_eq_awaited]
          refine reply_takeResponse env rfl ((hsteps.failure (by decide)).trans hfailure) fun _ => ?_
          exact hruling.trans (by rw [hexchange])

/-- The leg of a caller that gets a message is closed, and these were its calls. -/
theorem calls_callAndWait_of_ok {m : Message}
    (h : reply (callAndWait env (c.opening .sender .request e bus supply)) = .ok m) :
    (callAndWait env (c.opening .sender .request e bus supply)).2.closed = true ∧
      ∃ failure ended,
        (callAndWait env (c.opening .sender .request e bus supply)).2.trace.map (·.call) =
          answeredCalls e env.settings.exchange.callTimeout (heard env e bus supply).answer failure
            supply.now.2.now.1 ended := by
  have hcalls := calls_awaiting hleave c e bus supply
  have hrequest := request_of_outcome_ok ((reply_callAndWait hleave c e bus supply).symm.trans h)
  have hexchange : (awaiting env (c.opening .sender .request e bus supply)).exchange =
      (heard env e bus supply).answer.exchange := by
    rw [exchange_awaiting, answer_opening hleave]
  have hrole : (awaiting env (c.opening .sender .request e bus supply)).role = .sender :=
    (steps_awaiting env _).role
  have hscope : (awaiting env (c.opening .sender .request e bus supply)).scope = .response := rfl
  have hsignalled :
      (awaiting env (c.opening .sender .request e bus supply)).signalled = false := by
    unfold awaiting
    rw [applyPolicy_snd_of_leave hleave, sendSync_snd]
    rfl
  -- a leg that ends in a message has gone on as a response
  have hwaits := callAndWait_of_ok env (reply_eq_ok h).1
  rw [hwaits] at h ⊢
  generalize awaiting env (c.opening .sender .request e bus supply) = l at *
  obtain ⟨hclosed, failure, ended, hends⟩ := calls_takeResponse_of_ok hleave hsignalled h
  refine ⟨hclosed, failure, ended, ?_⟩
  rw [hends, hcalls, hexchange, hrole, hscope, hrequest]
  rfl

theorem reply_course_of_waiting (hv : c.variant = .requestResponse true) :
    reply (c.course env .sender .request (c.opening .sender .request e bus supply)) =
      (heard env e bus supply).outcome env.settings.exchange.callTimeout := by
  rw [course_of_waiting hv, reply_settle env c.rethrow (callAndWait env _),
    reply_callAndWait hleave]

theorem calls_course_of_waiting (hv : c.variant = .requestResponse true) {m : Message}
    (h : reply (c.course env .sender .request (c.opening .sender .request e bus supply)) = .ok m) :
    ∃ failure ended,
      (c.course env .sender .request
          (c.opening .sender .request e bus supply)).2.trace.map (·.call) =
        answeredCalls e env.settings.exchange.callTimeout (heard env e bus supply).answer failure
          supply.now.2.now.1 ended := by
  rw [course_of_waiting hv] at h ⊢
  rw [reply_settle env c.rethrow (callAndWait env _)] at h
  obtain ⟨hclosed, hcalls⟩ := calls_callAndWait_of_ok hleave c e bus supply h
  rw [(reply_eq_ok h).1, settle_of_closed env c.rethrow hclosed]
  exact hcalls

end Command

namespace Engine

open Command

variable (env : Environment σ)

/-- A call whose operation expects a response comes to the outcome of what the parties say to it.
It has the transport asked at most once, refuses nothing, tells no participant anything and leaves
the store as it is. When it comes to a message, the policy has judged the request and then the
response, the transport has been told once that the leg has succeeded, and monitoring has been
notified once that it is finished. -/
theorem callBlocking_exact (hleave : env.parties.LeaveExchanges) {o : Operation}
    (ho : o.pattern = .inOut) (message : Message) (context : CallContext) (bus : Bus σ)
    (supply : Supply) :
    let x := callBlocking env o message context bus supply
    let limit := env.settings.exchange.callTimeout
    let asked := newExchange o context message supply
    let h := heard env asked.1 bus asked.2
    x.result = h.outcome limit ∧
      (callsOf [.sendSync] x.trace).length ≤ 1 ∧ callsOf [.refuse] x.trace = [] ∧
      callsOf callbackKinds x.trace = [] ∧ x.bus.store = bus.store ∧
      ∀ m, x.result = .ok m → ∃ failure sent ended,
        x.trace.map (·.call) = answeredCalls asked.1 limit h.answer failure sent ended := by
  intro x limit asked h
  have hvariant : (prepare env (Variant.ofOperation o true) .sender .request asked.1).variant =
      .requestResponse true := ofOperation_eq_iff.mpr ⟨ho, rfl⟩
  have hready :
      (prepare env (Variant.ofOperation o true) .sender .request asked.1).ready =
        .ok (.sender, .request, asked.1) := rfl
  have hresult : x.result = _ := callBlocking_eq_reply env hready bus asked.2
  have htrace : x.trace = _ := execute_trace env hready bus asked.2
  have hbus : x.bus = _ := execute_bus env hready bus asked.2
  generalize prepare env (Variant.ofOperation o true) .sender .request asked.1 = c at *
  have hsteps := steps_course_of_waiting hvariant env
    (c.opening .sender .request asked.1 bus asked.2)
  have houtcome := hresult.trans (reply_course_of_waiting hleave c asked.1 bus asked.2 hvariant)
  refine ⟨houtcome, ?_, ?_, ?_, ?_, ?_⟩
  · rw [htrace]
    exact sendSync_course_of_waiting hvariant env _
  · rw [htrace, hsteps.callsOf (by decide)]
    rfl
  · rw [htrace, hsteps.callsOf (by decide)]
    rfl
  · rw [hbus, hsteps.store (by decide)]
    rfl
  · intro m hm
    obtain ⟨failure, ended, hcalls⟩ :=
      calls_course_of_waiting hleave c asked.1 bus asked.2 hvariant (hresult.symm.trans hm)
    rw [htrace]
    exact ⟨failure, _, ended, hcalls⟩

section Books

open Rehearsal

/-- The permissive policy leaves every exchange as it is. -/
theorem leaveExchanges_parties (handlers : Dict HandlerScript) :
    (parties handlers .permissive).LeaveExchanges where
  enforce _ _ _ _ _ := rfl

/-- Whoever orders a book and waits gets the price, and six calls have been made. -/
theorem callBlocking_exact_book :
    let env := environment ∅ .permissive
    let bus : Bus Channel :=
      { parties := { sendSync := [{ change := { output := some (some { body := "12" }) } }] } }
    let x := callBlocking env place { body := "book" } bookOrder.context bus .counting
    x.result = .ok { body := "12" } ∧ x.trace.length = 6 ∧ x.bus.store = bus.store := by
  intro env bus x
  have hresult : x.result = .ok { body := "12" } := rfl
  have hpattern : place.pattern = .inOut := rfl
  obtain ⟨-, -, -, -, hstore, hcalls⟩ := callBlocking_exact env (leaveExchanges_parties ∅) hpattern
    { body := "book" } bookOrder.context bus .counting
  obtain ⟨failure, sent, ended, htrace⟩ := hcalls _ hresult
  have hlength : x.trace.length = (x.trace.map (·.call)).length :=
    (List.length_map _).symm
  rw [htrace] at hlength
  exact ⟨hresult, hlength, hstore⟩

end Books

end Engine

end ServiceBus
