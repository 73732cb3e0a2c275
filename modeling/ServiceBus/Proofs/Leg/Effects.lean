import ServiceBus.Proofs.Leg.Steps

set_option autoImplicit false

/-! # What is done on a leg, step by step

For each step of `Leg/Effects.lean`: the acts it is made of (`does_…`), what comes of it, and
the one part of the leg or of the trace that it is there to change. Everything else follows from
the acts.

A delivery reaches the leg's participant (`Leg.participant?`) with exactly one call, or fails
before it. -/

namespace ServiceBus

variable {σ α β : Type} (env : Environment σ) (l : Leg σ)

/-- What the policy makes of the leg as it stands. -/
def Leg.ruling : Ruling :=
  (env.parties.enforce l.exchange l.role l.exchange.context.agreedPolicy l.scope l.bus.parties).1

/-- How the transport answers when the leg's exchange is handed to it. -/
def Leg.answer : Answer :=
  (env.parties.sendSync l.exchange env.settings.exchange.callTimeout l.bus.parties).1

namespace Work

/-! ## One piece of work after another -/

theorem bind_of_ok {x : Work σ α} {l : Leg σ} {a : α} (h : (x l).1 = .ok a) (f : α → Work σ β) :
    (x >>= f) l = f a (x l).2 := by
  rw [bind_apply]
  cases hx : x l with
  | mk r l' =>
      rw [hx] at h
      cases h
      rfl

theorem bind_of_error {x : Work σ α} {l : Leg σ} {e : BusError} (h : (x l).1 = .error e)
    (f : α → Work σ β) : (x >>= f) l = (.error e, (x l).2) := by
  rw [bind_apply]
  cases hx : x l with
  | mk r l' =>
      rw [hx] at h
      cases h
      rfl

/-- What follows an attempt gets its result, on the leg as the attempt leaves it. -/
theorem bind_attempt (x : Work σ α) (f : Except BusError α → Work σ β) (l : Leg σ) :
    (attempt x >>= f) l = f (x l).1 (x l).2 := rfl

theorem bind_bind {γ : Type} (x : Work σ α) (f : α → Work σ β) (g : β → Work σ γ) :
    (x >>= f) >>= g = x >>= fun a => f a >>= g := by
  funext l
  cases hx : (x l).1 with
  | error e =>
      have hfirst : ((x >>= f) l).1 = .error e := by rw [bind_of_error hx]
      rw [bind_of_error hfirst, bind_of_error hx, bind_of_error hx]
  | ok a => rw [bind_apply, bind_of_ok hx, bind_of_ok hx, bind_apply]

theorem bind_leg (f : Leg σ → Work σ β) (l : Leg σ) : (leg >>= f) l = f l l := rfl

theorem bind_exchange (f : Exchange → Work σ β) (l : Leg σ) :
    (exchange >>= f) l = f l.exchange l := rfl

/-- What the work that follows leaves alone is as the first piece of work leaves it. -/
theorem bind_frame {γ : Type} (part : Leg σ → γ) {x : Work σ α} {f : α → Work σ β}
    (hf : ∀ a m, part (f a m).2 = part m) (l : Leg σ) : part ((x >>= f) l).2 = part (x l).2 := by
  cases h : (x l).1 with
  | ok a => rw [bind_of_ok h, hf]
  | error e => rw [bind_of_error h]

/-! ## Notifications -/

/-- The acts of a notification. -/
def noticeActs : List Act := [.draw, .call .notify, .close]

theorem does_notifyOf (kind : NotificationKind) (state : LifecycleState) (reason : Option String) :
    Does noticeActs (notifyOf env kind state reason) := by
  unfold notifyOf
  refine (Does.now.mono (by decide)).bind fun time => Does.leg.bind fun l => ?_
  refine Does.bind ((Does.ask .notify (fun _ => rfl) (by decide) (by decide)).mono (by decide))
    fun _ l' => ?_
  exact .single (.close l' _) (by decide)

theorem does_notify (state : LifecycleState) : Does noticeActs (notify env state) :=
  does_notifyOf env _ _ _

theorem does_notifyFailure (e : BusError) : Does noticeActs (notifyFailure env e) :=
  does_notifyOf env _ _ _

/-- A notification is about the leg as it stands. -/
theorem trace_notifyOf (kind : NotificationKind) (state : LifecycleState)
    (reason : Option String) :
    (notifyOf env kind state reason l).2.trace = l.trace ++ [⟨.notify (Event.ofExchange l.exchange
      l.role l.scope kind state reason l.supply.now.1), l.bus.store⟩] := rfl

/-- A terminal notification marks the leg as closed. -/
theorem closed_notifyOf (kind : NotificationKind) {state : LifecycleState}
    (reason : Option String) (h : state.isTerminal = true) :
    (notifyOf env kind state reason l).2.closed = true := by
  show (l.closed || state.isTerminal) = true
  rw [h, Bool.or_true]

@[simp] theorem notify_fst (state : LifecycleState) : (notify env state l).1 = .ok () := rfl

@[simp] theorem notifyFailure_fst (e : BusError) : (notifyFailure env e l).1 = .ok () := rfl

/-! ## The policy -/

theorem does_applyPolicy : Does [.call .policy, .replace] (applyPolicy env) := by
  unfold applyPolicy
  refine Does.leg.bind fun l => ?_
  refine Does.bind ((Does.ask .policy (fun _ => rfl) (by decide) (by decide)).mono (by decide))
    fun ruling => ?_
  refine Does.bind (fun l' => .single (.replace l' _) (by decide)) fun _ => Does.check _

theorem applyPolicy_fst :
    (applyPolicy env l).1 =
      match (l.ruling env).violation with
      | none => .ok ()
      | some v => .error (BusError.ofViolation v) := by
  show (check ((l.ruling env).violation.map BusError.ofViolation) _).1 = _
  cases (l.ruling env).violation <;> rfl

theorem applyPolicy_snd :
    (applyPolicy env l).2 =
      { l.called (.policy l.exchange l.role l.scope (l.ruling env))
          (env.parties.enforce l.exchange l.role l.exchange.context.agreedPolicy l.scope
            l.bus.parties).2 with
        exchange := (l.ruling env).exchange } := by
  show (check ((l.ruling env).violation.map BusError.ofViolation) _).2 = _
  cases (l.ruling env).violation <;> rfl

/-- The call of the policy is the one to judge the leg as it stands. -/
theorem callsOf_applyPolicy {kinds : List CallKind} (h : .policy ∈ kinds) :
    callsOf kinds (applyPolicy env l).2.trace =
      callsOf kinds l.trace ++ [.policy l.exchange l.role l.scope (l.ruling env)] := by
  rw [applyPolicy_snd, Leg.called]
  exact callsOf_concat_of_mem h _

theorem policies_applyPolicy :
    callsOf [.policy] (applyPolicy env l).2.trace =
      callsOf [.policy] l.trace ++ [.policy l.exchange l.role l.scope (l.ruling env)] :=
  callsOf_applyPolicy env l List.mem_cons_self

/-! ## The end of the leg

Acknowledging and refusing ask the transport only on a leg that does not have the mark yet. -/

section Signal

variable (question : Exchange → σ → Option BusError × σ) (call : Exchange → Option BusError → Call)

theorem signal_of_signalled {l : Leg σ} (h : l.signalled = true) :
    signal question call l = (.ok (), l) := by
  show (if l.signalled = true then Pure.pure () else _ : Work σ Unit) l = _
  rw [if_pos h]
  rfl

theorem signal_eq {l : Leg σ} (h : l.signalled = false) :
    signal question call l =
      (.ok (), { l.called (call l.exchange (question l.exchange l.bus.parties).1)
        (question l.exchange l.bus.parties).2 with signalled := true }) := by
  show (if l.signalled = true then Pure.pure () else _ : Work σ Unit) l = _
  rw [if_neg (by simp [h])]
  rfl

theorem signal_of_not_signalled {l : Leg σ} (h : l.signalled = false) :
    ∃ failure s, signal question call l =
      (.ok (), { l.called (call l.exchange failure) s with signalled := true }) :=
  ⟨_, _, signal_eq question call h⟩

theorem does_signal {kind : CallKind} (hcall : ∀ e failure, (call e failure).kind = kind)
    (hk : kind ∈ signalKinds) : Does [.call kind] (signal question call) := by
  intro l
  cases h : l.signalled with
  | true => rw [signal_of_signalled question call h]; exact .refl l
  | false =>
      obtain ⟨failure, s, hr⟩ := signal_of_not_signalled question call h
      have hc : (call l.exchange failure).kind = kind := hcall _ _
      rw [hr]
      exact .single (.signal l _ s (by rw [hc]; exact hk) h) (by rw [hc]; exact List.mem_cons_self)

theorem signal_fst : (signal question call l).1 = .ok () := by
  cases h : l.signalled with
  | true => rw [signal_of_signalled question call h]
  | false =>
      obtain ⟨failure, s, hr⟩ := signal_of_not_signalled question call h
      rw [hr]

theorem signal_signalled : (signal question call l).2.signalled = true := by
  cases h : l.signalled with
  | true => rw [signal_of_signalled question call h]; exact h
  | false =>
      obtain ⟨failure, s, hr⟩ := signal_of_not_signalled question call h
      rw [hr]

end Signal

theorem does_acknowledge : Does [.call .acknowledge] (acknowledge env) :=
  does_signal _ _ (fun _ _ => rfl) (by decide)

theorem does_refuse (cause : BusError) : Does [.call .refuse] (refuse env cause) :=
  does_signal _ _ (fun _ _ => rfl) (by decide)

@[simp] theorem acknowledge_fst : (acknowledge env l).1 = .ok () := signal_fst l _ _

@[simp] theorem refuse_fst (cause : BusError) : (refuse env cause l).1 = .ok () := signal_fst l _ _

@[simp] theorem acknowledge_signalled : (acknowledge env l).2.signalled = true :=
  signal_signalled l _ _

@[simp] theorem refuse_signalled (cause : BusError) : (refuse env cause l).2.signalled = true :=
  signal_signalled l _ _

/-- The acknowledgement of a leg without the mark is about the exchange as it stands. -/
theorem trace_acknowledge {l : Leg σ} (h : l.signalled = false) :
    ∃ failure, (acknowledge env l).2.trace =
      l.trace ++ [⟨.acknowledge l.exchange failure, l.bus.store⟩] := by
  obtain ⟨failure, s, hr⟩ := signal_of_not_signalled env.parties.acknowledge
    (fun e failure => .acknowledge e failure) h
  exact ⟨failure, by rw [acknowledge, hr]; rfl⟩

theorem callsOf_acknowledge {l : Leg σ} (h : l.signalled = false) :
    ∃ failure, callsOf signalKinds (acknowledge env l).2.trace =
      callsOf signalKinds l.trace ++ [.acknowledge l.exchange failure] := by
  obtain ⟨failure, htrace⟩ := trace_acknowledge env h
  refine ⟨failure, ?_⟩
  rw [htrace]
  exact callsOf_concat_of_mem (by simp [Call.kind, signalKinds]) _

/-! ## The participant -/

theorem does_recordFailure (e : BusError) : Does [.record] (recordFailure e : Work σ Unit) :=
  fun l => .single (.record l e) List.mem_cons_self

theorem does_resolveHandler : Does [.find] (resolveHandler : Work σ (Option HandlerName)) := by
  intro l
  rw [resolveHandler, bind_leg]
  cases h : l.handler with
  | some handler => exact .refl l
  | none => exact .single (.find l h) List.mem_cons_self

theorem resolveHandler_fst : (resolveHandler l).1 = .ok l.participant? := by
  rw [resolveHandler, bind_leg, Leg.participant?]
  cases h : l.handler <;> rfl

/-- A participant that has been looked up is known from then on. -/
theorem resolveHandler_handler : (resolveHandler l).2.handler = l.participant? := by
  rw [resolveHandler, bind_leg, Leg.participant?]
  cases h : l.handler with
  | some handler => exact h
  | none => rfl

theorem does_requireHandler : Does [.find] (requireHandler : Work σ HandlerName) := by
  unfold requireHandler
  refine does_resolveHandler.bind fun found => ?_
  cases found with
  | some handler => exact .pure handler
  | none => exact Does.exchange.bind fun e => .fail _

theorem requireHandler_of_some {l : Leg σ} {handler : HandlerName}
    (h : l.participant? = some handler) : (requireHandler l).1 = .ok handler := by
  unfold requireHandler
  rw [bind_of_ok (resolveHandler_fst l), h]
  rfl

theorem requireHandler_of_none {l : Leg σ} (h : l.participant? = none) :
    (requireHandler l).1 = .error (noHandler l.exchange) := by
  have he : (resolveHandler l).2.exchange = l.exchange :=
    (does_resolveHandler l).exchange (by decide)
  unfold requireHandler
  rw [bind_of_ok (resolveHandler_fst l), h, ← he]
  rfl

/-- A handler that is required is the leg's own from then on. -/
theorem requireHandler_handler {l : Leg σ} {handler : HandlerName}
    (h : (requireHandler l).1 = .ok handler) : (requireHandler l).2.handler = some handler := by
  have hfound := resolveHandler_handler l
  unfold requireHandler at h ⊢
  rw [bind_of_ok (resolveHandler_fst l)] at h ⊢
  cases hp : l.participant? with
  | none => rw [hp] at h; cases h
  | some participant =>
      rw [hp] at h hfound
      cases h
      exact hfound

theorem inboundMessage_of_some {l : Leg σ} {message : Message}
    (h : l.exchange.inbound l.scope = some message) : inboundMessage l = (.ok message, l) := by
  rw [inboundMessage, bind_leg, h]
  rfl

theorem inboundMessage_of_none {l : Leg σ} (h : l.exchange.inbound l.scope = none) :
    inboundMessage l = (.error (noMessage l.exchange l.scope), l) := by
  rw [inboundMessage, bind_leg, h]
  rfl

theorem bind_inboundMessage_of_some {l : Leg σ} {message : Message}
    (h : l.exchange.inbound l.scope = some message) (f : Message → Work σ α) :
    (inboundMessage >>= f) l = f message l := by
  rw [bind_apply, inboundMessage_of_some h]

theorem bind_inboundMessage_of_none {l : Leg σ} (h : l.exchange.inbound l.scope = none)
    (f : Message → Work σ α) :
    (inboundMessage >>= f) l = (.error (noMessage l.exchange l.scope), l) := by
  rw [bind_apply, inboundMessage_of_none h]

theorem does_inboundMessage : Does [] (inboundMessage : Work σ Message) := by
  intro l
  cases h : l.exchange.inbound l.scope with
  | some message => rw [inboundMessage_of_some h]; exact .refl l
  | none => rw [inboundMessage_of_none h]; exact .refl l

/-! ## Deliveries -/

/-- The result of a delivery that a handler answers. -/
def handled (operation : String) : Option HandlerError → Except BusError Unit
  | none => .ok ()
  | some failure => .error (BusError.ofHandler operation failure)

theorem check_ofHandler (operation : String) (failure : Option HandlerError) :
    check (failure.map (BusError.ofHandler operation)) l = (handled operation failure, l) := by
  cases failure <;> rfl

/-- The acts of the delivery of a failure. -/
def errorActs : List Act := [.find, .call .handleError]

theorem does_deliverError (e : BusError) : Does errorActs (deliverError env e) := by
  unfold deliverError
  refine Does.bind_result (does_requireHandler.mono (by decide)) fun handler l hr => ?_
  have hask := fun context => steps_ask (requireHandler_handler hr) .handleError
    (env.parties.handleError handler e context)
    (fun failure => .handleError handler e context failure) (fun _ => rfl) (by decide)
    (fun _ _ ht => (Option.some.inj ht).symm)
  refine (hask (requireHandler l).2.exchange.context).mono (by decide) |>.trans ?_
  exact Does.check _ _

theorem deliverError_of_some {l : Leg σ} {handler : HandlerName}
    (h : l.participant? = some handler) (e : BusError) :
    ∃ failure, (deliverError env e l).1 = handled l.exchange.operation failure ∧
      callsOf callbackKinds (deliverError env e l).2.trace =
        callsOf callbackKinds l.trace ++ [.handleError handler e l.exchange.context failure] := by
  have hfind := does_requireHandler l
  have he : (requireHandler l).2.exchange = l.exchange := hfind.exchange (by decide)
  have ht : callsOf callbackKinds (requireHandler l).2.trace = callsOf callbackKinds l.trace :=
    hfind.callsOf (by decide)
  have hask : ∀ m : Leg σ, ∃ failure s, (do
      let l ← leg
      let failure ← ask (env.parties.handleError handler e l.exchange.context) fun failure =>
        .handleError handler e l.exchange.context failure
      check (failure.map (BusError.ofHandler l.exchange.operation)) : Work σ Unit) m =
        (handled m.exchange.operation failure,
          m.called (.handleError handler e m.exchange.context failure) s) :=
    fun m => ⟨_, _, check_ofHandler _ m.exchange.operation _⟩
  obtain ⟨failure, s, hr⟩ := hask (requireHandler l).2
  refine ⟨failure, ?_⟩
  unfold deliverError
  rw [bind_of_ok (requireHandler_of_some h), hr, ← he, ← ht]
  exact ⟨rfl, callsOf_concat_of_mem (by simp [Call.kind, callbackKinds]) _⟩

/-- The acts of the delivery of a failure whose own failure is only notified. -/
def quietErrorActs : List Act := [.find, .call .handleError, .draw, .call .notify, .close]

theorem does_deliverErrorQuietly (e : BusError) :
    Does quietErrorActs (deliverErrorQuietly env e) := by
  unfold deliverErrorQuietly
  refine ((does_deliverError env e).mono (by decide)).attempt.bind fun r => ?_
  cases r with
  | ok _ => exact .pure ()
  | error secondary => exact (does_notifyOf env _ _ _).mono (by decide)

@[simp] theorem deliverErrorQuietly_fst (e : BusError) :
    (deliverErrorQuietly env e l).1 = .ok () := by
  unfold deliverErrorQuietly
  rw [bind_attempt]
  cases (deliverError env e l).1 <;> rfl

/-- Apart from notifications, a quiet delivery makes the calls of a delivery. -/
theorem callsOf_deliverErrorQuietly (e : BusError) :
    callsOf callbackKinds (deliverErrorQuietly env e l).2.trace =
      callsOf callbackKinds (deliverError env e l).2.trace := by
  unfold deliverErrorQuietly
  rw [bind_attempt]
  cases (deliverError env e l).1 with
  | ok _ => rfl
  | error secondary => exact (does_notifyOf env _ _ _ _).callsOf (by decide)

/-- A failure that is notified and then delivered, quietly or not, is what the participant is
told, if nothing is said to it afterwards. -/
theorem callbacks_of_failure {l : Leg σ} {handler : HandlerName}
    (h : l.participant? = some handler) (e : BusError) {x : Work σ α} {f : α → Work σ β}
    (hx : ∀ m, callsOf callbackKinds (x m).2.trace =
      callsOf callbackKinds (deliverError env e m).2.trace)
    (acts : List Act) (hf : ∀ a, Does acts (f a))
    (hacts : ∀ kind ∈ callbackKinds, .call kind ∉ acts) :
    ∃ failure, callsOf callbackKinds ((notifyFailure env e >>= fun _ => x >>= f) l).2.trace =
      callsOf callbackKinds l.trace ++ [.handleError handler e l.exchange.context failure] := by
  have hn := does_notifyFailure env e l
  obtain ⟨failure, -, htold⟩ := deliverError_of_some env
    ((hn.participant? (by decide)).trans h) e
  refine ⟨failure, ?_⟩
  rw [hn.callsOf (by decide), hn.exchange (by decide), ← hx] at htold
  rw [bind_of_ok (notifyFailure_fst env l e), ← htold]
  exact bind_frame (fun m => callsOf callbackKinds m.trace)
    (fun a m => (hf a m).callsOf hacts) _

/-- The acts of the delivery of a message. -/
def messageActs : List Act := [.find, .draw, .call .notify, .close, .call .handleMessage]

theorem steps_handOver {l : Leg σ} {handler : HandlerName} (h : l.handler = some handler)
    (incoming : Incoming) : Leg.Steps messageActs l (handOver env handler incoming l).2 := by
  have hnotice := does_notify env .appIn l
  have hask := steps_ask ((hnotice.handler (by decide)).trans h) .handleMessage
    (env.parties.handleMessage handler incoming)
    (fun failure => .handleMessage handler incoming failure) (fun _ => rfl) (by decide)
    (fun _ _ ht => (Option.some.inj ht).symm)
  refine ((hnotice.mono (by decide)).trans (hask.mono (by decide))).trans ?_
  exact Does.check _ _

theorem does_deliverMessage (message : Message) :
    Does messageActs (deliverMessage env message) := by
  unfold deliverMessage
  refine Does.bind_result (does_requireHandler.mono (by decide)) fun handler l hr => ?_
  rw [bind_leg]
  cases message.notUnderstood? (env.parties.understood handler (requireHandler l).2.bus.parties) with
  | some header => exact .refl _
  | none => exact steps_handOver env (requireHandler_handler hr) _

theorem handOver_eq (handler : HandlerName) (incoming : Incoming) :
    ∃ failure, (handOver env handler incoming l).1 = handled incoming.operation failure ∧
      callsOf callbackKinds (handOver env handler incoming l).2.trace =
        callsOf callbackKinds l.trace ++ [.handleMessage handler incoming failure] := by
  have hn : callsOf callbackKinds (notify env .appIn l).2.trace = callsOf callbackKinds l.trace :=
    (does_notify env .appIn l).callsOf (by decide)
  have hask : ∀ m : Leg σ, ∃ failure s, (do
      let failure ← ask (env.parties.handleMessage handler incoming) fun failure =>
        .handleMessage handler incoming failure
      check (failure.map (BusError.ofHandler incoming.operation)) : Work σ Unit) m =
        (handled incoming.operation failure,
          m.called (.handleMessage handler incoming failure) s) :=
    fun m => ⟨_, _, check_ofHandler _ incoming.operation _⟩
  obtain ⟨failure, s, hr⟩ := hask (notify env .appIn l).2
  refine ⟨failure, ?_⟩
  unfold handOver
  rw [bind_of_ok (notify_fst env l .appIn), hr, ← hn]
  exact ⟨rfl, callsOf_concat_of_mem (by simp [Call.kind, callbackKinds]) _⟩

theorem deliverMessage_of_some {l : Leg σ} {handler : HandlerName}
    (h : l.participant? = some handler) (message : Message) :
    deliverMessage env message l =
      match message.notUnderstood? (env.parties.understood handler l.bus.parties) with
      | some header => (.error (notUnderstood l.exchange header), (requireHandler l).2)
      | none => handOver env handler (l.incoming message) (requireHandler l).2 := by
  have hfind := does_requireHandler l
  have hin : (requireHandler l).2.incoming message = l.incoming message := by
    simp only [Leg.incoming, hfind.exchange (by decide), hfind.role, hfind.scope (by decide)]
  rw [← hin, ← hfind.exchange (by decide), ← hfind.parties (by simp)]
  unfold deliverMessage
  rw [bind_of_ok (requireHandler_of_some h)]
  generalize (requireHandler l).2 = m
  rw [bind_leg]
  cases message.notUnderstood? (env.parties.understood handler m.bus.parties) <;> rfl

theorem deliverMessage_of_understood {l : Leg σ} {handler : HandlerName} {message : Message}
    (h : l.participant? = some handler)
    (hu : message.notUnderstood? (env.parties.understood handler l.bus.parties) = none) :
    ∃ failure, (deliverMessage env message l).1 = handled l.exchange.operation failure ∧
      callsOf callbackKinds (deliverMessage env message l).2.trace =
        callsOf callbackKinds l.trace ++ [.handleMessage handler (l.incoming message) failure] := by
  have ht : callsOf callbackKinds (requireHandler l).2.trace = callsOf callbackKinds l.trace :=
    (does_requireHandler l).callsOf (by decide)
  rw [deliverMessage_of_some env h, hu, ← ht]
  exact handOver_eq env _ handler (l.incoming message)

/-- A message with a header that the participant does not understand fails before the handler is
called. -/
theorem deliverMessage_of_not_understood {l : Leg σ} {handler : HandlerName} {message : Message}
    {header : String} (h : l.participant? = some handler)
    (hu : message.notUnderstood? (env.parties.understood handler l.bus.parties) = some header) :
    (deliverMessage env message l).1 = .error (notUnderstood l.exchange header) ∧
      callsOf callbackKinds (deliverMessage env message l).2.trace =
        callsOf callbackKinds l.trace := by
  rw [deliverMessage_of_some env h, hu]
  exact ⟨rfl, (does_requireHandler l).callsOf (by decide)⟩

/-- What a delivery comes to: the handler is called once, and the delivery fails with what the
handler answers, or the participant does not understand a header, and the handler is not
called. -/
theorem deliverMessage_cases {l : Leg σ} {handler : HandlerName}
    (hh : l.participant? = some handler) (message : Message) :
    (∃ failure, (deliverMessage env message l).1 = handled l.exchange.operation failure ∧
      callsOf callbackKinds (deliverMessage env message l).2.trace =
        callsOf callbackKinds l.trace ++ [.handleMessage handler (l.incoming message) failure]) ∨
    (∃ header ∈ message.mustUnderstand.keys,
      (deliverMessage env message l).1 = .error (notUnderstood l.exchange header) ∧
      callsOf callbackKinds (deliverMessage env message l).2.trace =
        callsOf callbackKinds l.trace) := by
  cases hu : message.notUnderstood? (env.parties.understood handler l.bus.parties) with
  | none => exact .inl (deliverMessage_of_understood env hh hu)
  | some header =>
      exact .inr ⟨header, List.mem_of_find?_eq_some hu, deliverMessage_of_not_understood env hh hu⟩

/-! ## The transport -/

theorem does_send : Does [.call .send] (send env) := by
  unfold send
  refine Does.exchange.bind fun e => ?_
  exact (Does.ask .send (fun _ => rfl) (by decide) (by decide)).bind fun _ => Does.check _

theorem send_eq (l : Leg σ) :
    ∃ failure s, (send env l).1 = (match failure with
        | none => .ok ()
        | some e => .error e) ∧
      (send env l).2 = l.called (.send l.exchange failure) s := by
  refine ⟨(env.parties.send l.exchange l.bus.parties).1,
    (env.parties.send l.exchange l.bus.parties).2, ?_⟩
  show (check (env.parties.send l.exchange l.bus.parties).1 _).1 = _ ∧
    (check (env.parties.send l.exchange l.bus.parties).1 _).2 = _
  cases (env.parties.send l.exchange l.bus.parties).1 with
  | none => exact ⟨rfl, rfl⟩
  | some e => exact ⟨rfl, rfl⟩

theorem does_roundTrip (e : Exchange) : Does [.call .sendSync] (roundTrip env e) :=
  Does.ask .sendSync (fun _ => rfl) (by decide) (by decide)

theorem does_sendSync : Does [.call .sendSync, .replace] (sendSync env) := by
  unfold sendSync
  refine Does.exchange.bind fun e => ?_
  refine ((does_roundTrip env e).mono (by decide)).bind fun answer => ?_
  exact Does.bind (fun l => .single (.replace l _) (by decide)) fun _ => Does.check _

theorem sendSync_fst :
    (sendSync env l).1 =
      match (l.answer env).failure? env.settings.exchange.callTimeout with
      | none => .ok ()
      | some e => .error e := by
  show (check ((l.answer env).failure? env.settings.exchange.callTimeout) _).1 = _
  cases (l.answer env).failure? env.settings.exchange.callTimeout <;> rfl

theorem sendSync_snd :
    (sendSync env l).2 =
      { l.called (.sendSync l.exchange env.settings.exchange.callTimeout (l.answer env))
          (env.parties.sendSync l.exchange env.settings.exchange.callTimeout l.bus.parties).2 with
        exchange := (l.answer env).exchange } := by
  show (check ((l.answer env).failure? env.settings.exchange.callTimeout) _).2 = _
  cases (l.answer env).failure? env.settings.exchange.callTimeout <;> rfl

theorem callsOf_sendSync {kinds : List CallKind} (h : .sendSync ∈ kinds) :
    callsOf kinds (sendSync env l).2.trace = callsOf kinds l.trace ++
      [.sendSync l.exchange env.settings.exchange.callTimeout (l.answer env)] := by
  rw [sendSync_snd, Leg.called]
  exact callsOf_concat_of_mem h _

theorem does_ensureNotError : Does [] (ensureNotError : Work σ Unit) := by
  unfold ensureNotError
  refine Does.exchange.bind fun e => ?_
  split
  · exact .fail _
  · exact .pure ()

/-! ## The store -/

theorem does_persist : Does [.draw, .keep] (persist : Work σ Unit) := by
  unfold persist
  refine (Does.now.mono (by decide)).bind fun time => ?_
  exact fun l => .single (.keep l _) (by decide)

theorem does_release : Does [.keep] (release : Work σ Unit) :=
  fun l => .single (.keep l _) List.mem_cons_self

@[simp] theorem persist_fst : (persist l).1 = .ok () := rfl

@[simp] theorem release_fst : (release l).1 = .ok () := rfl

end Work

end ServiceBus
