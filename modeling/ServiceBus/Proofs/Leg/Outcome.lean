import ServiceBus.Proofs.Leg.IncomingResponse

set_option autoImplicit false

/-! # What a response comes to

A response to a request comes to one thing (`Exchange.outcome`), a failure or a message, whether
somebody waits for it or not. The policy is taken to leave the exchange as it is and to give the
verdict `v`, if it is asked: by what the trace tells (`Judged`), or on the leg itself (`RulesAs`).

There are a few ways of a response to its outcome (`ResponseWay`). On each of them the
participant is told the outcome, when nobody waits (`tells_takeResponse`); and when a caller
waits, the leg ends so that the caller can read the outcome off it (`reply_takeResponse`), except
that a message from the input slot, which the participant would get, is no response to a caller
that waits (`Exchange.awaited`). -/

namespace ServiceBus

/-- What a response comes to under the verdict `v` of the policy. -/
def Exchange.outcome (e : Exchange) (v : Option PolicyViolation) : Except BusError Message :=
  if e.isError then .error e.failureError
  else
    match e.inbound .response with
    | none => .error (Work.noMessage e .response)
    | some message =>
        match BusError.ofFault? message.body, v with
        | some remote, _ => .error remote
        | none, some violation => .error (BusError.ofViolation violation)
        | none, none =>
            if e.fault.isSome then .error (BusError.ofRemote message.body) else .ok message

/-- What a caller that waits for the response gets. -/
def Exchange.awaited (e : Exchange) (v : Option PolicyViolation) : Except BusError Message :=
  match e.outcome v with
  | .error err => .error err
  | .ok _ => e.payload

/-- Whenever a trace has the policy judge the response, it leaves it and gives the verdict `v`. -/
def Judged (e : Exchange) (v : Option PolicyViolation) (trace : List Entry) : Prop :=
  ∀ ruling, .policy e .sender .response ruling ∈ callsOf [.policy] trace → ruling = ⟨e, v⟩

namespace Exchange

variable {e : Exchange} {v : Option PolicyViolation} {message : Message}

/-- What a response holds that came in the fault slot is the failure described there. -/
theorem payload_of_fault (h : e.fault.isSome = true) (hi : e.inbound .response = some message) :
    e.payload = .error (BusError.ofRemote message.body) := by
  obtain ⟨fault, hfault⟩ := Option.isSome_iff_exists.mp h
  have hm : fault = message := by simpa [inbound, response, hfault] using hi
  simp [payload, hfault, hm]

/-- A response that comes to a message has no fault. -/
theorem of_outcome_ok (h : e.outcome v = .ok message) :
    e.fault = none ∧ e.inbound .response = some message := by
  unfold outcome at h
  split at h
  · cases h
  · split at h
    · cases h
    · next m hi =>
        split at h
        · cases h
        · cases h
        · split at h
          · cases h
          · next hs =>
              cases h
              exact ⟨by simpa using hs, hi⟩

/-- What a waiting caller gets as a message is what the response comes to. -/
theorem outcome_of_awaited_ok (h : e.awaited v = .ok message) : e.outcome v = .ok message := by
  unfold awaited at h
  split at h
  · cases h
  · next m ho =>
      obtain ⟨hf, hi⟩ := of_outcome_ok ho
      cases hout : e.output with
      | none => simp [payload, hf, hout] at h
      | some output =>
          have hm : output = m := by simpa [inbound, response, hf, hout] using hi
          have hp : output = message := by simpa [payload, hf, hout] using h
          rw [ho, ← hm, hp]

/-- A failure that a waiting caller gets is what the response comes to, unless the response
comes to a message that is no answer. -/
theorem outcome_of_awaited_error {err : BusError} (h : e.awaited v = .error err) :
    e.outcome v = .error err ∨
      (e.response = none ∧ err = e.noResponse ∧
        ∃ message, e.input = some message ∧ e.outcome v = .ok message) := by
  unfold awaited at h
  split at h
  · next err' ho =>
      cases h
      exact .inl ho
  · next m ho =>
      obtain ⟨hf, hi⟩ := of_outcome_ok ho
      cases hout : e.output with
      | some output => simp [payload, hf, hout] at h
      | none =>
          -- the message that the response comes to can only be the one in the input slot
          have hr : e.response = none := by simp [response, hf, hout]
          have hm : e.input = some m := by simpa [inbound, hr] using hi
          have he : err = e.noResponse := by
            simp only [payload, hf, hout] at h
            cases h
            rfl
          exact .inr ⟨hr, he, m, hm, ho⟩

end Exchange

namespace Work

variable {σ : Type} (env : Environment σ) {l : Leg σ} {v : Option PolicyViolation}

/-! ## A policy that leaves the exchange -/

/-- The acts of a policy that leaves the exchange, and what comes before it. -/
def judgingActs : List Act := [.keep, .call .policy]

/-- A policy that leaves the exchange makes a call and does nothing else. -/
theorem steps_applyPolicy (h : (l.ruling env).exchange = l.exchange) :
    Leg.Steps [.call .policy] l (applyPolicy env l).2 := by
  have hs := Leg.Step.call l (.policy l.exchange l.role l.scope (l.ruling env))
    (env.parties.enforce l.exchange l.role l.exchange.context.agreedPolicy l.scope
      l.bus.parties).2 (by simp [Call.kind, signalKinds]) (fun _ ht => by cases ht)
  rw [applyPolicy_snd, h]
  exact .single hs List.mem_cons_self

theorem ruling_mem_applyPolicy :
    .policy l.exchange l.role l.scope (l.ruling env) ∈
      callsOf [.policy] (applyPolicy env l).2.trace := by
  rw [policies_applyPolicy]
  exact List.mem_append_right _ (List.mem_singleton_self _)

/-! ## The ways of a response -/

/-- The ways of a response `l` to `x`, which go on from a leg `m` with the same exchange. -/
inductive ResponseWay (sync : Bool) (v : Option PolicyViolation) (l : Leg σ)
    (x : Except BusError Unit × Leg σ) : Prop where
  /-- There is nothing in the response. -/
  | silent (m : Leg σ) (hm : Leg.Steps judgingActs l m) (ha : l.exchange.answered = false)
      (ho : l.exchange.outcome v = .error (noMessage l.exchange .response))
      (hx : x = (.error (noMessage l.exchange .response), m))
  /-- The transport has marked the response as failed, or the policy rejects it. -/
  | failed (m : Leg σ) (hm : Leg.Steps judgingActs l m) (e : BusError)
      (ho : l.exchange.outcome v = .error e) (hx : x = failResponse env sync e m)
  /-- The response reports a failure. -/
  | reported (m : Leg σ) (hm : Leg.Steps judgingActs l m) (e : BusError) (message : Message)
      (ho : l.exchange.outcome v = .error e)
      (hx : x = concludeResponse env sync (some e) message m)
  /-- The response is taken for what is in its slots. -/
  | taken (m : Leg σ) (hm : Leg.Steps judgingActs l m) (message : Message)
      (hi : l.exchange.inbound .response = some message)
      (ho : l.exchange.outcome v =
        if l.exchange.fault.isSome then .error (BusError.ofRemote message.body) else .ok message)
      (hx : x = concludeResponse env sync none message m)

/-- The policy leaves the response as it is and gives the verdict `v`, if it is asked. -/
def RulesAs (sync : Bool) (v : Option PolicyViolation) (l : Leg σ) : Prop :=
  (applyPolicy env (letGo sync l).2).2.trace <+: (takeResponse env sync l).2.trace →
    (letGo sync l).2.ruling env = ⟨l.exchange, v⟩

/-- A ruling that the trace tells of is the one that the response has gone by. -/
theorem rulesAs_of_judged (sync : Bool) (hrole : l.role = .sender) (hscope : l.scope = .response)
    (hj : Judged l.exchange v (takeResponse env sync l).2.trace) : RulesAs env sync v l := by
  intro hprefix
  have hgo := does_letGo sync l
  have hasked := callsOf_subset hprefix _ (ruling_mem_applyPolicy env)
  rw [hgo.exchange (by decide), hgo.role, hgo.scope (by decide), hrole, hscope] at hasked
  exact hj _ hasked

theorem takeResponse_way (sync : Bool) (hscope : l.scope = .response)
    (hr : RulesAs env sync v l) : ResponseWay env sync v l (takeResponse env sync l) := by
  have hgo := does_letGo sync l
  have hcourse := takeResponse_course env sync l
  unfold RulesAs at hr
  generalize (letGo sync l).2 = m at hgo hcourse hr
  have hme : m.exchange = l.exchange := hgo.exchange (by decide)
  have hms : m.scope = .response := (hgo.scope (by decide)).trans hscope
  have hm : Leg.Steps judgingActs l m := hgo.mono (by decide)
  have hjudged : m.ruling env = ⟨l.exchange, v⟩ → Leg.Steps judgingActs l (applyPolicy env m).2 :=
    fun hr => hm.trans ((steps_applyPolicy env (by rw [hr, hme])).mono (by decide))
  cases hcourse with
  | marked he hx =>
      rw [hme] at he hx
      exact .failed m hm l.exchange.failureError (by simp [Exchange.outcome, he]) hx
  | silent he hi hx =>
      rw [hme] at he
      rw [hme, hms] at hi hx
      exact .silent m hm (by simp [Exchange.answered, he, hi])
        (by simp [Exchange.outcome, he, hi]) hx
  | reported he message hi remote hf hx =>
      rw [hme] at he
      rw [hme, hms] at hi
      exact .reported m hm remote message (by simp [Exchange.outcome, he, hi, hf]) hx
  | rejected he message hi hf violation hv hx =>
      have hr := hr (by rw [hx]; exact (does_failResponse env sync _ _).prefix_trace)
      rw [hme] at he
      rw [hme, hms] at hi
      rw [hr] at hv
      refine .failed _ (hjudged hr) (BusError.ofViolation violation) ?_ hx
      simp only at hv
      simp [Exchange.outcome, he, hi, hf, hv]
  | accepted he message hi hf hv hx =>
      have hr := hr (by
        rw [hx]
        exact (does_concludeResponse env sync none message _).prefix_trace)
      rw [hme] at he
      rw [hme, hms] at hi
      rw [hr] at hv
      refine .taken _ (hjudged hr) message hi ?_ hx
      simp only at hv
      simp [Exchange.outcome, he, hi, hf, hv]

/-! ## What the participant is told -/

/-- The calls by which the handler of the leg `l` is told an outcome. Of a response without
anything in it there is nothing to tell. -/
inductive Told (handler : HandlerName) (l : Leg σ) :
    Except BusError Message → List Call → Prop where
  | message (message : Message) (failure : Option HandlerError) :
      Told handler l (.ok message) [.handleMessage handler (l.incoming message) failure]
  | error (e : BusError) (failure : Option HandlerError) :
      Told handler l (.error e) [.handleError handler e l.exchange.context failure]
  | nothing (e : BusError) (h : l.exchange.answered = false) : Told handler l (.error e) []

/-- From the leg `l` to the leg `m`, the handler is told the outcome. -/
def Tells (handler : HandlerName) (outcome : Except BusError Message) (l m : Leg σ) : Prop :=
  ∃ calls, Told handler l outcome calls ∧
    callsOf callbackKinds m.trace = callsOf callbackKinds l.trace ++ calls

section Tells

variable {handler : HandlerName} {outcome : Except BusError Message}

/-- It makes no difference if the policy is asked first. -/
theorem Tells.of_judging {m x : Leg σ} (hm : Leg.Steps judgingActs l m)
    (h : Tells handler outcome m x) : Tells handler outcome l x := by
  have he : m.exchange = l.exchange := hm.exchange (by decide)
  obtain ⟨calls, htold, hcalls⟩ := h
  rw [hm.callsOf (by decide)] at hcalls
  refine ⟨calls, ?_, hcalls⟩
  cases htold with
  | message message failure =>
      have hin : m.incoming message = l.incoming message := by
        simp only [Leg.incoming, he, hm.role, hm.scope (by decide)]
      rw [hin]
      exact .message message failure
  | error e failure =>
      rw [he]
      exact .error e failure
  | nothing e ha =>
      rw [he] at ha
      exact .nothing e ha

variable (h : l.participant? = some handler)

include h

theorem tells_failResponse (e : BusError) :
    Tells handler (.error e) l (failResponse env false e l).2 := by
  have hend : Does [.call .acknowledge, .record] (acknowledge env >>= fun _ => recordFailure e) :=
    ((does_acknowledge env).mono (by decide)).bind fun _ => (does_recordFailure e).mono (by decide)
  obtain ⟨failure, htold⟩ := callbacks_of_failure env h e (callsOf_deliverErrorQuietly env · e) _
    (fun _ => hend) (by decide)
  exact ⟨_, .error e failure, htold⟩

theorem tells_deliverFailure (e : BusError) :
    Tells handler (.error e) l (deliverFailure env e l).2 := by
  obtain ⟨failure, -, htold⟩ := deliverError_of_some env h e
  exact ⟨_, .error e failure, htold⟩

/-- What is delivered as a message depends on the slot that it came in. -/
theorem tells_deliverResponse {message : Message}
    (hu : ∀ s, message.notUnderstood? (env.parties.understood handler s) = none) :
    Tells handler
      (if l.exchange.fault.isSome then .error (BusError.ofRemote message.body) else .ok message)
      l (deliverResponse env none message l).2 := by
  show Tells handler _ l ((if l.exchange.fault.isSome = true then
    deliverFailure env (BusError.ofRemote message.body)
    else attempt (deliverMessage env message) : Work σ _) l).2
  cases l.exchange.fault.isSome with
  | true => exact tells_deliverFailure env h (BusError.ofRemote message.body)
  | false =>
      obtain ⟨failure, -, htold⟩ := deliverMessage_of_understood env h (hu _)
      exact ⟨_, .message message failure, htold⟩

end Tells

/-- When nobody waits, a response that has not been rejected makes the calls of its delivery. -/
theorem callbacks_concludeResponse (remote : Option BusError) (message : Message) :
    callsOf callbackKinds (concludeResponse env false remote message l).2.trace =
      callsOf callbackKinds (deliverResponse env remote message l).2.trace := by
  refine bind_frame (fun m => callsOf callbackKinds m.trace) (fun delivered m => ?_) l
  have hack : Does (.call .acknowledge :: noticeActs) (acknowledge env) :=
    (does_acknowledge env).mono (by decide)
  cases delivered with
  | error e => exact (hack.bind (fun _ => .fail e) m).callsOf (by decide)
  | ok _ =>
      exact (hack.bind (fun _ => (does_notify env .finished).mono (by decide)) m).callsOf
        (by decide)

theorem tells_concludeResponse {handler : HandlerName} {outcome : Except BusError Message}
    {remote : Option BusError} {message : Message}
    (h : Tells handler outcome l (deliverResponse env remote message l).2) :
    Tells handler outcome l (concludeResponse env false remote message l).2 := by
  obtain ⟨calls, htold, hcalls⟩ := h
  exact ⟨calls, htold, (callbacks_concludeResponse env remote message).trans hcalls⟩

/-- When nobody waits for a response, the participant is told what it comes to. -/
theorem tells_takeResponse {handler : HandlerName} (hrole : l.role = .sender)
    (hscope : l.scope = .response) (h : l.participant? = some handler)
    (hu : ∀ message, l.exchange.inbound .response = some message →
      ∀ s, message.notUnderstood? (env.parties.understood handler s) = none)
    (hj : Judged l.exchange v (takeResponse env false l).2.trace) :
    Tells handler (l.exchange.outcome v) l (takeResponse env false l).2 := by
  have hh : ∀ {m}, Leg.Steps judgingActs l m → m.participant? = some handler :=
    fun hm => (hm.participant? (by decide)).trans h
  cases takeResponse_way env false hscope (rulesAs_of_judged env false hrole hscope hj) with
  | silent m hm ha ho hx =>
      rw [ho, hx]
      exact ⟨[], .nothing _ ha, by rw [hm.callsOf (by decide), List.append_nil]⟩
  | failed m hm e ho hx =>
      rw [ho, hx]
      exact .of_judging hm (tells_failResponse env (hh hm) e)
  | reported m hm e message ho hx =>
      rw [ho, hx]
      exact .of_judging hm (tells_concludeResponse env (tells_deliverFailure env (hh hm) e))
  | taken m hm message hi ho hx =>
      rw [ho, hx, ← hm.exchange (by decide)]
      exact .of_judging hm (tells_concludeResponse env
        (tells_deliverResponse env (hh hm) (hu message hi)))

/-! ## What a caller that waits reads off the end of the leg -/

/-- What a caller gets from the end of a leg: the failure of the work, the failure that was
recorded, or what the exchange holds. -/
def reply (x : Except BusError Unit × Leg σ) : Except BusError Message :=
  match x.1, x.2.failure with
  | .error e, _ => .error e
  | .ok (), some e => .error e
  | .ok (), none => x.2.exchange.payload

theorem reply_failResponse (sync : Bool) (e : BusError) :
    reply (failResponse env sync e l) = .error e := by
  cases sync with
  | true =>
      have hr : (failResponse env true e l).1 = .error e := by
        show ((notifyFailure env e >>= fun _ => acknowledge env >>= fun _ => Work.fail e) l).1 = _
        rw [bind_of_ok (notifyFailure_fst env l e), bind_of_ok (acknowledge_fst env _)]
        rfl
      rw [reply, hr]
  | false =>
      show reply ((notifyFailure env e >>= fun _ => deliverErrorQuietly env e >>= fun _ =>
        acknowledge env >>= fun _ => recordFailure e) l) = _
      rw [bind_of_ok (notifyFailure_fst env l e), bind_of_ok (deliverErrorQuietly_fst env _ e),
        bind_of_ok (acknowledge_fst env _)]
      rfl

theorem reply_concludeResponse_some (e : BusError) (message : Message) :
    reply (concludeResponse env true (some e) message l) = .error e := by
  have hx : concludeResponse env true (some e) message l =
      (notifyFailure env e >>= fun _ => recordFailure e) (acknowledge env l).2 :=
    bind_of_ok (acknowledge_fst env l) _
  rw [hx, bind_of_ok (notifyFailure_fst env _ e)]
  rfl

/-- A response that somebody waits for, and that reports no failure, is acknowledged and done. -/
theorem concludeResponse_none (message : Message) :
    concludeResponse env true none message l = notify env .finished (acknowledge env l).2 :=
  bind_of_ok (acknowledge_fst env l) _

theorem reply_concludeResponse_none (hf : l.failure = none) (message : Message) :
    reply (concludeResponse env true none message l) = l.exchange.payload := by
  have hack := does_acknowledge env l
  have hn := does_notify env .finished (acknowledge env l).2
  rw [concludeResponse_none, reply, notify_fst, hn.failure (by decide),
    hack.failure (by decide), hf, hn.exchange (by decide), hack.exchange (by decide)]

/-- A caller that waits for a response gets what the response comes to. -/
theorem reply_takeResponse (hscope : l.scope = .response) (hf : l.failure = none)
    (hr : RulesAs env true v l) : reply (takeResponse env true l) = l.exchange.awaited v := by
  unfold Exchange.awaited
  cases takeResponse_way env true hscope hr with
  | silent m hm ha ho hx => rw [ho, hx]; rfl
  | failed m hm e ho hx => rw [ho, hx, reply_failResponse]
  | reported m hm e message ho hx => rw [ho, hx, reply_concludeResponse_some]
  | taken m hm message hi ho hx =>
      have hmf : m.failure = none := (hm.failure (by decide)).trans hf
      rw [ho, hx, reply_concludeResponse_none env hmf, hm.exchange (by decide)]
      cases hs : l.exchange.fault.isSome with
      | true => exact Exchange.payload_of_fault hs hi
      | false => rfl

end Work

end ServiceBus
