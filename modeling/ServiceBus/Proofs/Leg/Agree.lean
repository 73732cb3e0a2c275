import ServiceBus.Proofs.Leg.Moves
import ServiceBus.Proofs.Leg.Related

set_option autoImplicit false

/-! # Legs that agree up to clock times

A command may be executed now or later, with other things done in between. If these have nothing to
do with the message that its exchange is about, then the two legs agree (`Leg.Agree`): they differ
in clock times, in what is kept about other messages, and in the handlers that others have found
before. Every step keeps this so (`Parties.Steady.matched`), as long as the parties do not look at
anything but the questions that they are asked.

The leg also tells which handlers it has found itself: those in the cache are the ones found before
and those of the keys that have been looked up. -/

namespace ServiceBus

/-! ## Without clock times -/

/-- The event without its time. -/
def Event.timeless (e : Event) : Event := { e with recordedAt := default }

/-- The context without its times. -/
def CallContext.timeless (c : CallContext) : CallContext :=
  { c with
    createdAt := default
    relatedAt := c.relatedAt.map fun _ => default
    relations := c.relations.map fun r => { r with recordedAt := default } }

/-- The exchange without its times. -/
def Exchange.timeless (e : Exchange) : Exchange := { e with context := e.context.timeless }

/-- The answer without the times of its exchange. -/
def Answer.timeless (a : Answer) : Answer := { a with exchange := a.exchange.timeless }

/-- The call without the times that are read for it: of an event, and of an exchange that has been
made for a fault. -/
def Call.timeless : Call → Call
  | .sendSync e limit answer => .sendSync e.timeless limit answer.timeless
  | .notify event => .notify event.timeless
  | call => call

/-- The calls of a trace, without times. -/
def timelessCalls (trace : List Entry) : List Call := trace.map fun entry => entry.call.timeless

theorem timelessCalls_concat {t t' : List Entry} (h : timelessCalls t' = timelessCalls t)
    {c c' : Call} (hc : c'.timeless = c.timeless) (store store' : Store) :
    timelessCalls (t' ++ [⟨c', store'⟩]) = timelessCalls (t ++ [⟨c, store⟩]) := by
  unfold timelessCalls at h ⊢
  rw [List.map_append, List.map_append, h, List.map_singleton, List.map_singleton, hc]

theorem Exchange.isError_of_timeless {e e' : Exchange} (h : e'.timeless = e.timeless) :
    e'.isError = e.isError := by
  show e'.timeless.isError = e.timeless.isError
  rw [h]

theorem Exchange.failureError_of_timeless {e e' : Exchange} (h : e'.timeless = e.timeless) :
    e'.failureError = e.failureError := by
  show e'.timeless.failureError = e.timeless.failureError
  rw [h]

theorem Answer.failure?_of_timeless {a a' : Answer} (h : a'.timeless = a.timeless) (limit : Nat) :
    a'.failure? limit = a.failure? limit := by
  show a'.timeless.failure? limit = a.timeless.failure? limit
  rw [h]

/-! ## Parties that only look at what they are asked -/

section Parties

variable {σ α : Type}

/-- The answer does not depend on the state. -/
def Constant (question : σ → α × σ) : Prop := ∀ s s', (question s').1 = (question s).1

/-- The answers of the parties depend on the questions only. -/
structure Parties.Steady (p : Parties σ) : Prop where
  enforce (e : Exchange) (role : Role) (agreed : Option AgreedPolicy) (scope : Scope) :
    Constant (p.enforce e role agreed scope)
  understood (handler : HandlerName) (s s' : σ) : p.understood handler s' = p.understood handler s
  handleMessage (handler : HandlerName) (incoming : Incoming) :
    Constant (p.handleMessage handler incoming)
  handleError (handler : HandlerName) (e : BusError) (context : CallContext) :
    Constant (p.handleError handler e context)
  send (e : Exchange) : Constant (p.send e)
  sendSync (e : Exchange) (limit : Nat) : Constant (p.sendSync e limit)
  acknowledge (e : Exchange) : Constant (p.acknowledge e)
  refuse (e : Exchange) (cause : BusError) : Constant (p.refuse e cause)

/-- The transport answers exchanges that differ in times only with answers that differ in times
only. -/
def Parties.IgnoreTimes (p : Parties σ) : Prop :=
  ∀ (e e' : Exchange) (limit : Nat) (s s' : σ), e'.timeless = e.timeless →
    (p.sendSync e' limit s').1.timeless = (p.sendSync e limit s).1.timeless

/-- Parties that take everything as it is, and at once. -/
def Parties.obliging : Parties Unit where
  enforce e _ _ _ _ := (⟨e, none⟩, ())
  understood _ _ := []
  handleMessage _ _ _ := (none, ())
  handleError _ _ _ _ := (none, ())
  send _ _ := (none, ())
  sendSync e _ _ := (⟨e, .after 0 none⟩, ())
  acknowledge _ _ := (none, ())
  refuse _ _ _ := (none, ())
  notify _ _ := ()

theorem Parties.steady_obliging : Parties.obliging.Steady where
  enforce _ _ _ _ _ _ := rfl
  understood _ _ _ := rfl
  handleMessage _ _ _ _ := rfl
  handleError _ _ _ _ _ := rfl
  send _ _ _ := rfl
  sendSync _ _ _ _ := rfl
  acknowledge _ _ _ := rfl
  refuse _ _ _ _ := rfl

theorem Parties.keepMessageIds_obliging : Parties.obliging.KeepMessageIds where
  enforce _ _ _ _ _ := rfl
  sendSync _ _ _ := rfl

theorem Parties.ignoreTimes_obliging : Parties.obliging.IgnoreTimes :=
  fun _ _ _ _ _ h => congrArg (fun e => (⟨e, .after 0 none⟩ : Answer)) h

end Parties

/-! ## What legs find -/

/-- The supplies give the same identifiers from now on. -/
def Supply.SameIds (s s' : Supply) : Prop := ∀ n, s'.id (s'.ids + n) = s.id (s.ids + n)

/-- The supplies give the same clock readings from now on. -/
def Supply.SameTimes (s s' : Supply) : Prop :=
  ∀ n, s'.time (s'.times + n) = s.time (s.times + n)

/-- The supplies give the same identifiers, and also the same times if `exact` holds. -/
structure Supply.Agree (exact : Prop) (s s' : Supply) : Prop where
  ids : s.SameIds s'
  times : exact → s.SameTimes s'

namespace Supply.Agree

variable {exact : Prop} {s s' : Supply} (h : s.Agree exact s')

include h

theorem nextId_fst : s'.nextId.1 = s.nextId.1 := h.ids 0

theorem nextId : s.nextId.2.Agree exact s'.nextId.2 where
  ids n := by
    show s'.id (s'.ids + 1 + n) = s.id (s.ids + 1 + n)
    rw [Nat.add_assoc, Nat.add_assoc]
    exact h.ids (1 + n)
  times := h.times

theorem now_fst (hexact : exact) : s'.now.1 = s.now.1 := h.times hexact 0

theorem now : s.now.2.Agree exact s'.now.2 where
  ids := h.ids
  times hexact n := by
    show s'.time (s'.times + 1 + n) = s.time (s.times + 1 + n)
    rw [Nat.add_assoc, Nat.add_assoc]
    exact h.times hexact (1 + n)

end Supply.Agree

/-- The handlers found before and those of the keys that have been looked up. -/
def Filled (before : HandlerCache) (registry : Registry) (looked : List HandlerKey)
    (cache : HandlerCache) : Prop :=
  ∀ key, cache.find? key =
    (before.find? key).or (if key ∈ looked then registry.find? key else none)

/-- What two executions of a command find that has to do with them: the message of the exchange,
the handlers, and whether the clock tells the same times. -/
structure Scene where
  id : Uuid
  registry : Registry
  cache : HandlerCache
  cache' : HandlerCache
  exact : Prop
  /-- Whether a handler has been found before makes no difference. -/
  handlers (key : HandlerKey) :
    (cache'.find? key).or (registry.find? key) = (cache.find? key).or (registry.find? key)

variable {σ α β : Type}

/-- The legs are the same up to clock times, as far as the scene goes. -/
structure Leg.Agree (v : Scene) (l l' : Leg σ) : Prop where
  role : l'.role = l.role
  scope : l'.scope = l.scope
  exchange : l'.exchange = l.exchange
  handler : l'.handler = l.handler
  failed : l'.failed = l.failed
  failure : l'.failure = l.failure
  signalled : l'.signalled = l.signalled
  closed : l'.closed = l.closed
  messageId : l.exchange.messageId = v.id
  kept : l'.bus.store.get? v.id = l.bus.store.get? v.id
  registry : l.bus.registry = v.registry ∧ l'.bus.registry = v.registry
  found : ∃ looked, Filled v.cache v.registry looked l.bus.cache ∧
    Filled v.cache' v.registry looked l'.bus.cache
  supply : l.supply.Agree v.exact l'.supply
  calls : timelessCalls l'.trace = timelessCalls l.trace

/-! ## Looking up handlers -/

theorem Filled.resolve {before : HandlerCache} {registry : Registry} {looked : List HandlerKey}
    {cache : HandlerCache} (h : Filled before registry looked cache) (key : HandlerKey) :
    Filled before registry (key :: looked) (cache.resolve registry key).2 := by
  intro k
  rw [find?_resolve_snd, h k]
  -- nothing is added under a key that has been looked up or found before
  by_cases heq : k = key <;> by_cases hlooked : k ∈ looked <;> cases before.find? k <;>
    simp_all

theorem Filled.effective {before : HandlerCache} {registry : Registry}
    {looked : List HandlerKey} {cache : HandlerCache} (h : Filled before registry looked cache)
    (key : HandlerKey) :
    (cache.find? key).or (registry.find? key) = (before.find? key).or (registry.find? key) := by
  rw [h key]
  by_cases hlooked : key ∈ looked <;> cases before.find? key <;> simp [hlooked]

/-! ## Steps -/

namespace Work

variable {v : Scene} {env : Environment σ}

/-- A question with the same answer on both legs. -/
theorem agree_ask {question question' : σ → α × σ}
    (hq : ∀ s s', (question' s').1 = (question s).1) (call : α → Call) :
    Related (Leg.Agree v) (ask question call) (ask question' call) := by
  intro l l' h
  have hanswer := hq l.bus.parties l'.bus.parties
  refine ⟨congrArg Except.ok hanswer.symm, ?_⟩
  have hcall := congrArg (fun a => (call a).timeless) hanswer
  exact { h with calls := timelessCalls_concat h.calls hcall _ _ }

theorem agree_now {l l' : Leg σ} (h : l.Agree v l') : (now l).2.Agree v (now l').2 :=
  { h with supply := h.supply.now }

variable (env) in
theorem agree_notifyOf (kind : NotificationKind) (state : LifecycleState) (reason : Option String) :
    Related (Leg.Agree v) (notifyOf env kind state reason) (notifyOf env kind state reason) := by
  intro l l' h
  refine ⟨rfl, { h with supply := h.supply.now, closed := ?_, calls := ?_ }⟩
  · show (l'.closed || _) = (l.closed || _)
    rw [h.closed]
  · refine timelessCalls_concat h.calls ?_ _ _
    show Call.notify (Event.timeless _) = Call.notify (Event.timeless _)
    rw [h.exchange, h.role, h.scope]
    rfl

/-- A signal is given on both legs or on none. -/
theorem agree_signal {question : Exchange → σ → Option BusError × σ}
    (hq : ∀ e, Constant (question e)) {call : Exchange → Option BusError → Call} :
    Related (Leg.Agree v) (signal question call) (signal question call) := by
  intro l l' h
  cases hl : l.signalled with
  | true =>
      rw [signal_of_signalled question call hl,
        signal_of_signalled question call (h.signalled.trans hl)]
      exact ⟨rfl, h⟩
  | false =>
      rw [signal_eq question call hl, signal_eq question call (h.signalled.trans hl), h.exchange,
        hq l.exchange l.bus.parties l'.bus.parties]
      exact ⟨rfl, { h with
        exchange := h.exchange
        signalled := rfl
        calls := timelessCalls_concat h.calls rfl _ _ }⟩

/-- What is done to a part of the leg that the scene does not tell of. -/
theorem agree_recordFailure (e : BusError) :
    Related (Leg.Agree v) (recordFailure e) (recordFailure e : Work σ Unit) :=
  fun _ _ h => ⟨rfl, { h with failed := rfl, failure := rfl }⟩

theorem agree_respond :
    Related (Leg.Agree v) (change fun l : Leg σ => { l with scope := .response })
      (change fun l : Leg σ => { l with scope := .response }) :=
  fun _ _ h => ⟨rfl, { h with scope := rfl }⟩

theorem agree_persist : Related (Leg.Agree v) persist (persist : Work σ Unit) := by
  intro l l' h
  refine ⟨rfl, { h with supply := h.supply.now, kept := ?_ }⟩
  -- what was kept before is replaced, whatever it was
  have hkept : ∀ (s : Store) (time : Timestamp),
      (s.persist l.exchange time).get? v.id = some l.exchange := fun s time => by
    rw [Store.persist, h.messageId, Store.get?, Table.find?_insert_self]
    rfl
  show (Store.persist _ l'.exchange _).get? v.id = (Store.persist _ l.exchange _).get? v.id
  rw [h.exchange, hkept, hkept]

theorem agree_release : Related (Leg.Agree v) release (release : Work σ Unit) := by
  intro l l' h
  refine ⟨rfl, { h with kept := ?_ }⟩
  have hgone : ∀ s : Store, (s.release l.exchange.messageId).2.get? v.id = none := fun s => by
    rw [Store.release, h.messageId, Store.get?, Table.find?_erase, if_pos rfl]
    rfl
  show (Store.release _ l'.exchange.messageId).2.get? v.id = _
  rw [h.exchange, hgone]
  exact (hgone _).symm

theorem agree_resolveHandler :
    Related (Leg.Agree v) resolveHandler (resolveHandler : Work σ (Option HandlerName)) := by
  unfold resolveHandler
  refine .bind_leg fun m m' hm => ?_
  rw [hm.handler]
  cases m.handler with
  | some handler => exact .pure _
  | none =>
      rw [hm.role, hm.exchange, hm.registry.1, hm.registry.2]
      obtain ⟨looked, hfound, hfound'⟩ := hm.found
      generalize (⟨m.role, m.exchange.serviceId, m.exchange.operation⟩ : HandlerKey) = key
      have hsame : (m'.bus.cache.resolve v.registry key).1 =
          (m.bus.cache.resolve v.registry key).1 := by
        rw [resolve_fst, resolve_fst, hfound.effective, hfound'.effective]
        exact v.handlers key
      dsimp only
      rw [hsame]
      refine Related.bind (fun l l' h => ⟨rfl, ?_⟩) fun _ => .pure _
      exact { h with
        handler := rfl
        found := ⟨key :: looked, hfound.resolve key, hfound'.resolve key⟩ }

/-- On legs that agree, both pieces of work have results, which are related by `T`. -/
def Gives (v : Scene) (T : α → α → Prop) (x x' : Work σ α) : Prop :=
  ∀ l l', Leg.Agree v l l' → ∃ a a', (x l).1 = .ok a ∧ (x' l').1 = .ok a' ∧ T a a' ∧
    Leg.Agree v (x l).2 (x' l').2

namespace Gives

variable {T : α → α → Prop} {x x' : Work σ α} {f f' : α → Work σ β}

theorem bind (hx : Gives v T x x') (hf : ∀ a a', T a a' → Related (Leg.Agree v) (f a) (f' a')) :
    Related (Leg.Agree v) (x >>= f) (x' >>= f') := by
  intro l l' h
  obtain ⟨a, a', ha, ha', hT, hm⟩ := hx l l' h
  rw [bind_of_ok ha, bind_of_ok ha']
  exact hf a a' hT _ _ hm

theorem andThen {U : β → β → Prop} (hx : Gives v T x x')
    (hf : ∀ a a', T a a' → Gives v U (f a) (f' a')) : Gives v U (x >>= f) (x' >>= f') := by
  intro l l' h
  obtain ⟨a, a', ha, ha', hT, hm⟩ := hx l l' h
  rw [bind_of_ok ha, bind_of_ok ha']
  exact hf a a' hT _ _ hm

theorem pure {a a' : α} (h : T a a') : Gives v T (Pure.pure a : Work σ α) (Pure.pure a') :=
  fun _ _ hl => ⟨a, a', rfl, rfl, h, hl⟩

end Gives

/-- New identifiers are the same. -/
theorem gives_newId : Gives v (fun id id' => id' = id) (newId : Work σ Uuid) newId :=
  fun _ _ h => ⟨_, _, rfl, rfl, h.supply.nextId_fst, { h with supply := h.supply.nextId }⟩

/-- Clock times are the same if this is asked for. -/
theorem gives_now : Gives v (fun t t' => v.exact → t' = t) (now : Work σ Timestamp) now :=
  fun _ _ h => ⟨_, _, rfl, rfl, h.supply.now_fst, agree_now h⟩

/-- The exchanges differ in times at most, and are the same if the clock tells the same times. -/
def SameFault (v : Scene) (fault fault' : Exchange) : Prop :=
  fault'.timeless = fault.timeless ∧ (v.exact → fault' = fault)

/-- Both legs make the same fault. -/
theorem gives_faultExchange (request : Exchange) (replyTo : EndpointReference)
    (operation : String) (cause : BusError) :
    Gives v (SameFault v) (faultExchange request replyTo operation cause : Work σ Exchange)
      (faultExchange request replyTo operation cause) := by
  unfold faultExchange
  refine gives_newId.andThen fun messageId _ hmessageId => ?_
  refine gives_now.andThen fun created created' hcreated => ?_
  refine gives_now.andThen fun related related' hrelated => ?_
  refine gives_newId.andThen fun id _ hid => .pure ⟨?_, fun hexact => ?_⟩
  · rw [hmessageId, hid]
    rfl
  · rw [hmessageId, hid, hcreated hexact, hrelated hexact]

variable (hs : env.parties.Steady)

include hs

theorem agree_send : Related (Leg.Agree v) (send env) (send env) := by
  intro l l' h
  have hrest := (agree_ask (v := v) (hs.send l.exchange) (.send l.exchange)).bind fun failure =>
    .check failure
  rw [send, bind_exchange, bind_exchange, h.exchange]
  exact hrest l l' h

variable (hk : env.parties.KeepMessageIds)

include hk

theorem agree_applyPolicy : Related (Leg.Agree v) (applyPolicy env) (applyPolicy env) := by
  intro l l' h
  have hruling : l'.ruling env = l.ruling env := by
    rw [Leg.ruling, Leg.ruling, h.exchange, h.role, h.scope]
    exact hs.enforce _ _ _ _ _ _
  refine ⟨by rw [applyPolicy_fst, applyPolicy_fst, hruling], ?_⟩
  rw [applyPolicy_snd, applyPolicy_snd, hruling, h.exchange, h.role, h.scope]
  exact { h with
    role := h.role
    scope := h.scope
    exchange := rfl
    messageId := (hk.enforce _ _ _ _ _).trans h.messageId
    calls := timelessCalls_concat h.calls rfl _ _ }

theorem agree_sendSync : Related (Leg.Agree v) (sendSync env) (sendSync env) := by
  intro l l' h
  have hanswer : l'.answer env = l.answer env := by
    rw [Leg.answer, Leg.answer, h.exchange]
    exact hs.sendSync _ _ _ _
  refine ⟨by rw [sendSync_fst, sendSync_fst, hanswer], ?_⟩
  rw [sendSync_snd, sendSync_snd, hanswer, h.exchange]
  exact { h with
    exchange := rfl
    messageId := (hk.sendSync _ _ _).trans h.messageId
    calls := timelessCalls_concat h.calls rfl _ _ }

omit hk

variable (ht : v.exact ∨ env.parties.IgnoreTimes)

include ht

/-- The transport answers a fault in the same way. -/
theorem gives_roundTrip {fault fault' : Exchange} (h : SameFault v fault fault') :
    Gives v (fun a a' => a'.timeless = a.timeless) (roundTrip env fault)
      (roundTrip env fault') := by
  intro l l' hl
  let limit := env.settings.exchange.callTimeout
  have hanswer : (env.parties.sendSync fault' limit l'.bus.parties).1.timeless =
      (env.parties.sendSync fault limit l.bus.parties).1.timeless := by
    rcases ht with he | ht
    · rw [h.2 he, hs.sendSync fault limit l.bus.parties l'.bus.parties]
    · exact ht fault fault' limit _ _ h.1
  refine ⟨_, _, rfl, rfl, hanswer, { hl with calls := timelessCalls_concat hl.calls ?_ _ _ }⟩
  rw [Call.timeless, Call.timeless, h.1, hanswer]

theorem agree_postFault (address : String) {fault fault' : Exchange}
    (h : SameFault v fault fault') :
    Related (Leg.Agree v) (postFault env address fault) (postFault env address fault') := by
  unfold postFault
  refine (gives_roundTrip hs ht h).bind fun a a' ha => ?_
  -- what is looked at of the answer has no times
  have hexchange : a'.exchange.timeless = a.exchange.timeless := congrArg Answer.exchange ha
  rw [Answer.failure?_of_timeless ha, Exchange.isError_of_timeless hexchange,
    Exchange.failureError_of_timeless hexchange]
  refine (Related.check _).bind fun _ => ?_
  split
  · exact .fail _
  · exact agree_notifyOf env _ _ _

theorem agree_sendFault (cause : BusError) :
    Related (Leg.Agree v) (sendFault env cause) (sendFault env cause) := by
  intro l l' h
  rw [sendFault, bind_exchange, bind_exchange, h.exchange]
  cases l.exchange.context.replyTo with
  | none => exact agree_notifyOf env _ _ _ l l' h
  | some replyTo =>
      dsimp only
      cases env.directory.faultOperation? replyTo.serviceId with
      | none => exact agree_notifyOf env _ _ _ l l' h
      | some operation =>
          exact (gives_faultExchange _ _ _ _).bind
            (fun _ _ hfault => agree_postFault hs ht _ hfault) l l' h

end Work

/-- Parties that look at nothing but the questions keep legs in agreement. -/
theorem Parties.Steady.matched {v : Scene} {env : Environment σ} (hs : env.parties.Steady)
    (hk : env.parties.KeepMessageIds) (ht : v.exact ∨ env.parties.IgnoreTimes) :
    env.Matched (Leg.Agree v) env where
  scope h := h.scope
  closed h := h.closed
  exchange h := h.exchange
  incoming h message := by rw [Leg.incoming, Leg.incoming, h.exchange, h.role, h.scope]
  understood h handler := hs.understood handler _ _
  now h := Work.agree_now h
  notifyOf := Work.agree_notifyOf env
  applyPolicy := Work.agree_applyPolicy hs hk
  acknowledge := Work.agree_signal hs.acknowledge
  refuse cause := Work.agree_signal fun e => hs.refuse e cause
  recordFailure := Work.agree_recordFailure
  resolveHandler := Work.agree_resolveHandler
  handleMessage handler incoming := Work.agree_ask (hs.handleMessage handler incoming) _
  handleError handler e context := Work.agree_ask (hs.handleError handler e context) _
  send := Work.agree_send hs
  sendSync := Work.agree_sendSync hs hk
  sendFault := Work.agree_sendFault hs ht
  persist := Work.agree_persist
  release := Work.agree_release
  respond := Work.agree_respond

end ServiceBus
