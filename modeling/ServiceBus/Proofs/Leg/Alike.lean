import ServiceBus.Proofs.Leg.Related

set_option autoImplicit false

/-! # What does not depend on how signals are taken

The transport may fail to take an acknowledgement or a refusal. Nothing but the record of the call
tells whether it did: two environments that behave alike in everything else (`Environment.Alike`)
have every leg come to the same end, with the same calls up to the failures of the signals. This
holds since each step keeps legs alike (`Environment.Alike.matched`).

The parties of the two environments may have states of different kinds. They are related by `R`,
and related states answer every question in the same way, except those about signals. -/

namespace ServiceBus

/-! ## Traces without the answers to signals -/

/-- The call without a failure to take a signal. -/
def Call.unanswered : Call → Call
  | .acknowledge e _ => .acknowledge e none
  | .refuse e cause _ => .refuse e cause none
  | call => call

/-- The calls of a trace, and the exchanges kept at each, without the failures to take signals. -/
def unanswered (trace : List Entry) : List Entry :=
  trace.map fun entry => { entry with call := entry.call.unanswered }

theorem unanswered_concat {t t' : List Entry} (h : unanswered t' = unanswered t) {c c' : Call}
    (hc : c'.unanswered = c.unanswered) (store : Store) :
    unanswered (t' ++ [⟨c', store⟩]) = unanswered (t ++ [⟨c, store⟩]) := by
  unfold unanswered at h ⊢
  rw [List.map_append, List.map_append, h]
  simp [hc]

/-! ## Parties that behave alike -/

section Parties

variable {σ σ' : Type} (R : σ → σ' → Prop)

/-- Related states give the same answer, and stay related. -/
def SameAnswer {α : Type} (question : σ → α × σ) (question' : σ' → α × σ') : Prop :=
  ∀ s s', R s s' → (question s).1 = (question' s').1 ∧ R (question s).2 (question' s').2

/-- The parties behave alike, except for how the transport takes signals. -/
structure Parties.Alike (p : Parties σ) (p' : Parties σ') : Prop where
  enforce (e : Exchange) (role : Role) (agreed : Option AgreedPolicy) (scope : Scope) :
    SameAnswer R (p.enforce e role agreed scope) (p'.enforce e role agreed scope)
  understood (handler : HandlerName) (s : σ) (s' : σ') (h : R s s') :
    p.understood handler s = p'.understood handler s'
  handleMessage (handler : HandlerName) (incoming : Incoming) :
    SameAnswer R (p.handleMessage handler incoming) (p'.handleMessage handler incoming)
  handleError (handler : HandlerName) (e : BusError) (context : CallContext) :
    SameAnswer R (p.handleError handler e context) (p'.handleError handler e context)
  send (e : Exchange) : SameAnswer R (p.send e) (p'.send e)
  sendSync (e : Exchange) (limit : Nat) : SameAnswer R (p.sendSync e limit) (p'.sendSync e limit)
  acknowledge (e : Exchange) (s : σ) (s' : σ') (h : R s s') :
    R (p.acknowledge e s).2 (p'.acknowledge e s').2
  refuse (e : Exchange) (cause : BusError) (s : σ) (s' : σ') (h : R s s') :
    R (p.refuse e cause s).2 (p'.refuse e cause s').2
  notify (event : Event) (s : σ) (s' : σ') (h : R s s') : R (p.notify event s) (p'.notify event s')

variable {R} in
theorem Parties.Alike.notified {p : Parties σ} {p' : Parties σ'} (h : p.Alike R p')
    (event : Event) :
    SameAnswer R (fun s => ((), p.notify event s)) (fun s => ((), p'.notify event s)) :=
  fun s s' hs => ⟨rfl, h.notify event s s' hs⟩

/-- The environments differ in the parties only, which behave alike. -/
structure Environment.Alike (env : Environment σ) (env' : Environment σ') : Prop where
  parties : env.parties.Alike R env'.parties
  directory : env'.directory = env.directory
  settings : env'.settings = env.settings

/-! ## Legs that are alike -/

/-- The leg with other parties and another trace. -/
def Leg.over (l : Leg σ) (s : σ') (trace : List Entry) : Leg σ' where
  role := l.role
  scope := l.scope
  exchange := l.exchange
  handler := l.handler
  failed := l.failed
  failure := l.failure
  signalled := l.signalled
  closed := l.closed
  bus := { parties := s, store := l.bus.store, registry := l.bus.registry, cache := l.bus.cache }
  supply := l.supply
  trace := trace

/-- The legs are the same but for the parties, which are related, and for the failures to take
signals. -/
inductive Leg.Alike (l : Leg σ) : Leg σ' → Prop where
  | intro (s : σ') (trace : List Entry) (hs : R l.bus.parties s)
      (ht : unanswered trace = unanswered l.trace) : Leg.Alike l (l.over s trace)

end Parties

namespace Work

variable {σ σ' α : Type} {R : σ → σ' → Prop}

theorem alike_now : Related (Leg.Alike R) now now := by
  rintro l _ ⟨s, trace, hs, ht⟩
  exact ⟨rfl, .intro s trace hs ht⟩

theorem alike_newId : Related (Leg.Alike R) newId newId := by
  rintro l _ ⟨s, trace, hs, ht⟩
  exact ⟨rfl, .intro s trace hs ht⟩

theorem alike_exchange : Related (Leg.Alike R) exchange exchange := by
  rintro l _ ⟨s, trace, hs, ht⟩
  exact ⟨rfl, .intro s trace hs ht⟩

/-- What changes the same, and neither the parties nor the trace, keeps legs alike. -/
theorem alike_change {g : Leg σ → Leg σ} {g' : Leg σ' → Leg σ'}
    (hp : ∀ l, (g l).bus.parties = l.bus.parties) (ht : ∀ l, (g l).trace = l.trace)
    (hg : ∀ l s trace, g' (l.over s trace) = (g l).over s trace) :
    Related (Leg.Alike R) (change g) (change g') := by
  rintro l _ ⟨s, trace, hs, htrace⟩
  refine ⟨rfl, ?_⟩
  show Leg.Alike R (g l) (g' (l.over s trace))
  rw [hg]
  exact .intro s trace (by rw [hp]; exact hs) (by rw [ht]; exact htrace)

theorem alike_ask {question : σ → α × σ} {question' : σ' → α × σ'}
    (h : SameAnswer R question question') (call : α → Call) :
    Related (Leg.Alike R) (ask question call) (ask question' call) := by
  rintro l _ ⟨s, trace, hs, ht⟩
  obtain ⟨hanswer, hafter⟩ := h l.bus.parties s hs
  refine ⟨congrArg Except.ok hanswer, ?_⟩
  have hcall := congrArg (fun a => (call a).unanswered) hanswer
  exact .intro (question' s).2 _ hafter (unanswered_concat ht hcall.symm l.bus.store)

/-! ## What is done on a leg -/

/-- A failure to take a signal makes no difference. -/
theorem alike_signal {question : Exchange → σ → Option BusError × σ}
    {question' : Exchange → σ' → Option BusError × σ'}
    (h : ∀ e s s', R s s' → R (question e s).2 (question' e s').2)
    {call : Exchange → Option BusError → Call}
    (hc : ∀ e failure failure', (call e failure').unanswered = (call e failure).unanswered) :
    Related (Leg.Alike R) (signal question call) (signal question' call) := by
  rintro l _ ⟨s, trace, hs, ht⟩
  cases hl : l.signalled with
  | true =>
      rw [signal_of_signalled question call hl,
        signal_of_signalled question' call (l := l.over s trace) hl]
      exact ⟨rfl, .intro s trace hs ht⟩
  | false =>
      rw [signal_eq question call hl, signal_eq question' call (l := l.over s trace) hl]
      exact ⟨rfl, .intro _ _ (h l.exchange l.bus.parties s hs)
        (unanswered_concat ht (hc _ _ _) l.bus.store)⟩

section Environments

variable {env : Environment σ} {env' : Environment σ'} (h : env.Alike R env')

include h

theorem alike_notifyOf (kind : NotificationKind) (state : LifecycleState) (reason : Option String) :
    Related (Leg.Alike R) (notifyOf env kind state reason) (notifyOf env' kind state reason) := by
  unfold notifyOf
  refine alike_now.bind fun time => .bind_leg ?_
  rintro m _ ⟨s, trace, hs, ht⟩
  refine (alike_ask (h.parties.notified _) _).bind fun _ => ?_
  exact alike_change (fun _ => rfl) (fun _ => rfl) fun _ _ _ => rfl

theorem alike_applyPolicy : Related (Leg.Alike R) (applyPolicy env) (applyPolicy env') := by
  unfold applyPolicy
  refine .bind_leg ?_
  rintro m _ ⟨s, trace, hs, ht⟩
  refine (alike_ask (h.parties.enforce _ _ _ _) _).bind fun ruling => ?_
  exact Related.bind (alike_change (fun _ => rfl) (fun _ => rfl) fun _ _ _ => rfl) fun _ => .check _

theorem alike_acknowledge : Related (Leg.Alike R) (acknowledge env) (acknowledge env') :=
  alike_signal h.parties.acknowledge fun _ _ _ => rfl

theorem alike_refuse (cause : BusError) :
    Related (Leg.Alike R) (refuse env cause) (refuse env' cause) :=
  alike_signal (fun e => h.parties.refuse e cause) fun _ _ _ => rfl

omit h in
theorem alike_recordFailure (e : BusError) :
    Related (Leg.Alike R) (recordFailure e : Work σ Unit) (recordFailure e) :=
  alike_change (fun _ => rfl) (fun _ => rfl) fun _ _ _ => rfl

omit h in
theorem alike_resolveHandler :
    Related (Leg.Alike R) (resolveHandler : Work σ (Option HandlerName)) resolveHandler := by
  unfold resolveHandler
  refine .bind_leg ?_
  rintro m _ ⟨s, trace, hs, ht⟩
  have hhandler : (m.over s trace).handler = m.handler := rfl
  rw [hhandler]
  cases m.handler with
  | some handler => exact .pure _
  | none =>
      refine Related.bind (alike_change (fun _ => rfl) (fun _ => rfl) fun _ _ _ => rfl) fun _ => ?_
      exact .pure _

theorem alike_send : Related (Leg.Alike R) (send env) (send env') := by
  unfold send
  refine alike_exchange.bind fun e => ?_
  exact (alike_ask (h.parties.send e) _).bind fun failure => .check failure

theorem alike_roundTrip (e : Exchange) :
    Related (Leg.Alike R) (roundTrip env e) (roundTrip env' e) := by
  unfold roundTrip
  rw [h.settings]
  exact alike_ask (h.parties.sendSync e _) _

theorem alike_sendSync : Related (Leg.Alike R) (sendSync env) (sendSync env') := by
  unfold sendSync
  rw [h.settings]
  refine alike_exchange.bind fun e => (alike_roundTrip h e).bind fun answer => ?_
  exact Related.bind (alike_change (fun _ => rfl) (fun _ => rfl) fun _ _ _ => rfl) fun _ => .check _

omit h in
theorem alike_faultExchange (request : Exchange) (replyTo : EndpointReference) (operation : String)
    (cause : BusError) :
    Related (Leg.Alike R) (faultExchange request replyTo operation cause : Work σ Exchange)
      (faultExchange request replyTo operation cause) := by
  unfold faultExchange
  refine alike_newId.bind fun messageId => alike_now.bind fun created => ?_
  exact alike_now.bind fun related => alike_newId.bind fun id => .pure _

theorem alike_postFault (address : String) (fault : Exchange) :
    Related (Leg.Alike R) (postFault env address fault) (postFault env' address fault) := by
  unfold postFault
  rw [h.settings]
  refine (alike_roundTrip h fault).bind fun answer => (Related.check _).bind fun _ => ?_
  split
  · exact .fail _
  · exact alike_notifyOf h _ _ _

theorem alike_sendFault (cause : BusError) :
    Related (Leg.Alike R) (sendFault env cause) (sendFault env' cause) := by
  unfold sendFault
  rw [h.directory]
  refine alike_exchange.bind fun request => ?_
  cases request.context.replyTo with
  | none => exact alike_notifyOf h _ _ _
  | some replyTo =>
      dsimp only
      cases env.directory.faultOperation? replyTo.serviceId with
      | none => exact alike_notifyOf h _ _ _
      | some operation =>
          exact (alike_faultExchange _ _ _ _).bind fun fault => alike_postFault h _ fault

omit h in
theorem alike_persist : Related (Leg.Alike R) (persist : Work σ Unit) persist := by
  unfold persist
  exact alike_now.bind fun time => alike_change (fun _ => rfl) (fun _ => rfl) fun _ _ _ => rfl

omit h in
theorem alike_release : Related (Leg.Alike R) (release : Work σ Unit) release :=
  alike_change (fun _ => rfl) (fun _ => rfl) fun _ _ _ => rfl

end Environments

end Work

/-- All steps keep legs alike. -/
theorem Environment.Alike.matched {σ σ' : Type} {R : σ → σ' → Prop} {env : Environment σ}
    {env' : Environment σ'} (h : env.Alike R env') : env.Matched (Leg.Alike R) env' where
  scope := by rintro l _ ⟨s, trace, hs, ht⟩; rfl
  closed := by rintro l _ ⟨s, trace, hs, ht⟩; rfl
  exchange := by rintro l _ ⟨s, trace, hs, ht⟩; rfl
  incoming := by rintro l _ ⟨s, trace, hs, ht⟩ message; rfl
  understood := by
    rintro l _ ⟨s, trace, hs, ht⟩ handler
    exact (h.parties.understood handler _ s hs).symm
  now hl := (Work.alike_now _ _ hl).2
  notifyOf := Work.alike_notifyOf h
  applyPolicy := Work.alike_applyPolicy h
  acknowledge := Work.alike_acknowledge h
  refuse := Work.alike_refuse h
  recordFailure := Work.alike_recordFailure
  resolveHandler := Work.alike_resolveHandler
  handleMessage handler incoming := Work.alike_ask (h.parties.handleMessage handler incoming) _
  handleError handler e context := Work.alike_ask (h.parties.handleError handler e context) _
  send := Work.alike_send h
  sendSync := Work.alike_sendSync h
  sendFault := Work.alike_sendFault h
  persist := Work.alike_persist
  release := Work.alike_release
  respond := Work.alike_change (fun _ => rfl) (fun _ => rfl) fun _ _ _ => rfl

end ServiceBus
