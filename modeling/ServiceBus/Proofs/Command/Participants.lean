import ServiceBus.Proofs.Command.Signals
import ServiceBus.Proofs.Handler.History

set_option autoImplicit false

/-! # Which handler a command talks to

A command without a handler of its own looks one up, under a key that is made of its role and of
what its exchange is addressed to: a receiver goes by the exchange as it comes in, a sender by the
exchange as the policy leaves it (`Command.handlerKey`). Whatever it does, it does to the handlers
of the bus what one look-up of this key does, or nothing, and every callback goes to what the
look-up has found (`Command.execute_consulting`).

What a look-up has found stays (`Handlers.resolved_once`). So once a command has found a handler,
all commands with the same key talk to it, whatever is registered and executed in between. -/

namespace ServiceBus

variable {σ : Type}

/-- The handlers of a bus. -/
def Bus.handlers (b : Bus σ) : Handlers := ⟨b.registry, b.cache⟩

/-! ## Look-ups on a leg -/

namespace Leg

variable {act : Act} {acts : List Act} {l l' : Leg σ} {before : Handlers}
  {k : HandlerKey} {handler : HandlerName}

/-- The key under which the leg as it stands looks its handler up. -/
def key (l : Leg σ) : HandlerKey := ⟨l.role, l.exchange.serviceId, l.exchange.operation⟩

/-- The handlers, as they were before, have been looked up under the key, or nothing has been
looked up yet; and nobody has been told anything but the leg's own handler. -/
structure Consulting (before : Handlers) (k : HandlerKey) (l : Leg σ) : Prop where
  looked : l.bus.handlers = before ∧ l.handler = none ∨
    l.bus.handlers = before.perform (.resolve k) ∧ l.handler = before.answer k
  told : ∀ entry ∈ l.trace, ∀ handler, entry.call.told? = some handler → l.handler = some handler

/-- A look-up under the key, on a leg whose handler is not known. -/
theorem Consulting.find (hl : l.Consulting before k) (hnone : l.handler = none)
    (hkey : l.key = k) :
    Consulting before k
      { l with handler := l.found.1, bus := { l.bus with cache := l.found.2 } } := by
  -- nothing has been found before, so the handlers are as they were
  have hbefore : l.bus.handlers = before := by
    rcases hl.looked with ⟨hb, -⟩ | ⟨hb, hanswer⟩
    · exact hb
    · rw [hb, Handlers.perform_resolve_of_none (hanswer ▸ hnone)]
  refine ⟨.inr ⟨?_, ?_⟩, fun entry hmem handler htold => ?_⟩
  · show l.bus.handlers.perform (.resolve l.key) = _
    rw [hbefore, hkey]
  · show l.bus.handlers.answer l.key = _
    rw [hbefore, hkey]
  · have hsome := hl.told entry hmem handler htold
    rw [hnone] at hsome
    cases hsome

/-- Every step leaves the leg consulting, if it looks up nothing or this key. -/
theorem Step.consulting (h : Step act l l') (hl : l.Consulting before k)
    (hkey : act = .find → l.handler = none → l.key = k) : l'.Consulting before k := by
  -- a call adds an entry, which tells nobody anything but the leg's handler
  have hcall : ∀ c : Call, (∀ handler, c.told? = some handler → l.handler = some handler) →
      ∀ entry ∈ l.trace ++ [⟨c, l.bus.store⟩], ∀ handler,
        entry.call.told? = some handler → l.handler = some handler := by
    intro c hc entry hmem
    rcases List.mem_append.mp hmem with hmem | hmem
    · exact hl.told entry hmem
    · rw [List.mem_singleton.mp hmem]
      exact hc
  cases h with
  | call _ c s _ ht => exact ⟨hl.looked, hcall c ht⟩
  | signal _ c s hc =>
      have hsignal : ∀ kind ∈ signalKinds, kind ∉ callbackKinds := by decide
      have hnone : c.told? = none := Call.told?_of_not_mem (hsignal _ hc)
      exact ⟨hl.looked, hcall c fun handler ht => by rw [hnone] at ht; cases ht⟩
  | find _ hnone => exact hl.find hnone (hkey rfl hnone)
  | _ => exact ⟨hl.looked, hl.told⟩

/-- Without a look-up, the key makes no difference. -/
theorem Steps.consulting (h : Steps acts l l') (hl : l.Consulting before k)
    (hacts : .find ∉ acts) : l'.Consulting before k :=
  Run.of_step (fun _ hact _ _ hs hm => hs.consulting hm fun hf => absurd hact (hf ▸ hacts)) h hl

/-- While the exchange stays, the leg looks up under the same key. -/
theorem Steps.key (h : Steps acts l l') (hacts : .replace ∉ acts) : l'.key = l.key := by
  rw [Leg.key, Leg.key, h.role, h.exchange hacts]

theorem Steps.consulting_of_key (h : Steps acts l l') (hl : l.Consulting before l.key)
    (hacts : .replace ∉ acts) : l'.Consulting before l'.key := by
  rw [h.key hacts]
  have hinv : l'.key = l.key ∧ l'.Consulting before l.key := by
    refine Run.of_step (P := fun m => m.key = l.key ∧ m.Consulting before l.key)
      (fun act hact a b hs hm => ?_) h ⟨rfl, hl⟩
    have hrun : Steps [act] a b := .single hs List.mem_cons_self
    have hkey := hrun.key fun hr => hacts (List.mem_singleton.mp hr ▸ hact)
    exact ⟨hkey.trans hm.1, hs.consulting hm.2 fun _ _ => hm.1⟩
  exact hinv.2

/-- A leg whose handler is known keeps it, and looks nothing up. -/
theorem Step.handler_of_some (h : Step act l l') (hl : l.handler = some handler) :
    l'.handler = some handler ∧ l'.bus.handlers = l.bus.handlers := by
  cases h with
  | find _ hnone =>
      rw [hnone] at hl
      cases hl
  | _ => exact ⟨hl, rfl⟩

theorem Steps.handler_of_some (h : Steps acts l l') (hl : l.handler = some handler) :
    l'.handler = some handler ∧ l'.bus.handlers = l.bus.handlers :=
  Run.of_step (P := fun m => m.handler = some handler ∧ m.bus.handlers = l.bus.handlers)
    (fun _ _ _ _ hs hm =>
      ⟨(hs.handler_of_some hm.1).1, (hs.handler_of_some hm.1).2.trans hm.2⟩) h ⟨hl, rfl⟩

theorem Steps.consulting_of_some (h : Steps acts l l') (hl : l.Consulting before k)
    (hsome : l.handler = some handler) : l'.Consulting before k := by
  have hinv : l'.handler = some handler ∧ l'.Consulting before k := by
    refine Run.of_step (P := fun m => m.handler = some handler ∧ m.Consulting before k)
      (fun act _ a b hs hm => ?_) h ⟨hsome, hl⟩
    refine ⟨(hs.handler_of_some hm.1).1, hs.consulting hm.2 fun _ hnone => ?_⟩
    rw [hm.1] at hnone
    cases hnone
  exact hinv.2

end Leg

/-! ## When a response is looked up for -/

namespace Work

variable (env : Environment σ)

/-- A response is first let go and judged; afterwards its exchange stays as it is. -/
theorem takeResponse_phases (sync : Bool) (l : Leg σ) :
    ∃ m, Leg.Steps [.keep, .call .policy, .replace] l m ∧
      Leg.Steps answerActs m (takeResponse env sync l).2 := by
  have hgo : Leg.Steps [.keep, .call .policy, .replace] l (letGo sync l).2 :=
    (does_letGo sync l).mono (by decide)
  have hjudged : Leg.Steps [.keep, .call .policy, .replace] l
      (applyPolicy env (letGo sync l).2).2 :=
    hgo.trans ((does_applyPolicy env (letGo sync l).2).mono (by decide))
  have hfail : ∀ e, Does answerActs (failResponse env sync e) :=
    fun e => (does_failResponse env sync e).mono (by decide)
  have hconclude : ∀ remote message, Does answerActs (concludeResponse env sync remote message) :=
    fun remote message => (does_concludeResponse env sync remote message).mono (by decide)
  cases takeResponse_course env sync l with
  | marked _ hx => exact ⟨_, hgo, hx ▸ hfail _ _⟩
  | silent _ _ hx => exact ⟨_, hgo, hx ▸ .refl _⟩
  | reported _ _ _ _ _ hx => exact ⟨_, hgo, hx ▸ hconclude _ _ _⟩
  | rejected _ _ _ _ _ _ hx => exact ⟨_, hjudged, hx ▸ hfail _ _⟩
  | accepted _ _ _ _ _ hx => exact ⟨_, hjudged, hx ▸ hconclude _ _ _⟩

theorem incomingResponse_phases (variant : Variant) (l : Leg σ) :
    ∃ m, Leg.Steps [.keep, .call .policy, .replace] l m ∧
      Leg.Steps answerActs m (incomingResponse env variant l).2 := by
  cases variant with
  | oneWay => exact ⟨l, .refl l, does_takeFault env l⟩
  | callback => exact ⟨l, .refl l, does_takeFault env l⟩
  | requestResponse sync => exact takeResponse_phases env sync l

end Work

/-! ## Executions -/

namespace Command

open Work

variable (env : Environment σ)

/-- The key under which a command looks its handler up, the exchange being `e` when it comes in and
`e'` when the command is done. -/
def handlerKey (role : Role) (e e' : Exchange) : HandlerKey :=
  match role with
  | .receiver => ⟨.receiver, e.serviceId, e.operation⟩
  | .sender => ⟨.sender, e'.serviceId, e'.operation⟩

/-- The command has no handler of its own, and its execution is one for the role, the service and
the operation of the key. -/
structure IsFor (c : Command) (bus : Bus σ) (supply : Supply) (key : HandlerKey) : Prop where
  handler : c.handler = none
  key : ∃ role scope e e', c.ready = .ok (role, scope, e) ∧
    (c.execute env bus supply).command.exchange = some e' ∧ handlerKey role e e' = key

section Course

variable {c : Command} (hc : c.handler = none) (scope : Scope) (e : Exchange) (bus : Bus σ)
  (supply : Supply)

include hc

/-- When a command is opened, nothing has been looked up. -/
theorem opening_consulting (role : Role) (key : HandlerKey) :
    (c.opening role scope e bus supply).Consulting bus.handlers key :=
  ⟨.inl ⟨rfl, hc⟩, fun _ hmem => by cases hmem⟩

/-- The work on a response looks its handler up when the exchange has been judged. -/
theorem work_response_consulting :
    let m := (work env c.variant .sender .response (c.opening .sender .response e bus supply)).2
    m.Consulting bus.handlers m.key := by
  obtain ⟨m, hjudged, htaken⟩ :=
    incomingResponse_phases env c.variant (c.opening .sender .response e bus supply)
  have hopen := opening_consulting hc .response e bus supply .sender m.key
  exact htaken.consulting_of_key (hjudged.consulting hopen (by decide)) (by decide)

/-- The work on a request looks its handler up before anything else. -/
theorem work_request_consulting :
    (work env c.variant .receiver .request (c.opening .receiver .request e bus supply)).2.Consulting
      bus.handlers ⟨.receiver, e.serviceId, e.operation⟩ := by
  have hopen := opening_consulting hc .request e bus supply .receiver
  have hfind := does_resolveHandler (c.opening .receiver .request e bus supply)
  have hfound := hfind.consulting_of_key (hopen _) (by decide)
  rw [hfind.key (by decide)] at hfound
  cases hp : (c.opening .receiver .request e bus supply).participant? with
  | none =>
      rw [work_request_of_none env hp]
      exact hfound
  | some handler =>
      rw [work_request_of_some env hp]
      exact (does_incomingRequest env c.variant _).consulting_of_some hfound
        ((resolveHandler_handler _).trans hp)

theorem work_consulting (role : Role) :
    let m := (work env c.variant role scope (c.opening role scope e bus supply)).2
    m.Consulting bus.handlers (handlerKey role e m.exchange) := by
  intro m
  have hopen := opening_consulting hc scope e bus supply role
  cases role with
  | sender =>
      cases scope with
      | request => exact (does_outgoingRequest env c.variant _).consulting (hopen _) (by decide)
      | response =>
          have hrole := (does_incomingResponse env c.variant
            (c.opening .sender .response e bus supply)).role
          have hkey : m.key = handlerKey .sender e m.exchange :=
            congrArg (HandlerKey.mk · m.exchange.serviceId m.exchange.operation) hrole
          exact hkey ▸ work_response_consulting env hc e bus supply
  | receiver =>
      cases scope with
      | request => exact work_request_consulting env hc e bus supply
      | response => exact (does_outgoingResponse env c.variant _).consulting (hopen _) (by decide)

theorem course_consulting (role : Role) :
    let m := (c.course env role scope (c.opening role scope e bus supply)).2
    m.Consulting bus.handlers (handlerKey role e m.exchange) := by
  intro m
  have hexchange : m.exchange = _ := course_exchange env c role scope _
  rw [hexchange]
  exact (does_settle env c.rethrow role _ _).consulting
    (work_consulting env hc scope e bus supply role) (by decide)

end Course

variable {c : Command} {bus : Bus σ} {supply : Supply} {key : HandlerKey} {env}

/-- What an execution does to the handlers, and whom it tells something. -/
theorem IsFor.execute (h : c.IsFor env bus supply key) :
    let x := c.execute env bus supply
    (x.bus.handlers = bus.handlers ∧ x.command.handler = none ∨
        x.bus.handlers = bus.handlers.perform (.resolve key) ∧
          x.command.handler = bus.handlers.answer key) ∧
      ∀ call ∈ callsOf callbackKinds x.trace, call.told? = x.command.handler := by
  intro x
  obtain ⟨role, scope, e, e', hready, he', hkey⟩ := h.key
  let l := (c.course env role scope (c.opening role scope e bus supply)).2
  have hbus : x.bus = l.bus := execute_bus env hready bus supply
  have htrace : x.trace = l.trace := execute_trace env hready bus supply
  have hhandler : x.command.handler = l.handler :=
    congrArg Command.handler (execute_command env hready bus supply)
  have hexchange : l.exchange = e' := by
    rw [execute_exchange env hready] at he'
    exact Option.some.inj he'
  have hl : l.Consulting bus.handlers (handlerKey role e l.exchange) :=
    course_consulting env h.handler scope e bus supply role
  rw [hexchange, hkey] at hl
  rw [hbus, hhandler, htrace]
  refine ⟨hl.looked, fun call hcall => ?_⟩
  obtain ⟨⟨entry, hentry, rfl⟩, hkind⟩ := mem_callsOf.mp hcall
  obtain ⟨handler, htold⟩ := Call.told?_of_mem hkind
  rw [htold, hl.told entry hentry handler htold]

/-- A command with a handler of its own leaves the handlers of the bus. -/
theorem handlers_execute_of_some {handler : HandlerName} (h : c.handler = some handler)
    (bus : Bus σ) (supply : Supply) :
    (c.execute env bus supply).bus.handlers = bus.handlers := by
  cases hready : c.ready with
  | error err => rw [execute_of_not_ready env hready]
  | ok ready =>
      obtain ⟨role, scope, e⟩ := ready
      have hwork := (does_work env c.variant role scope _).handler_of_some
        (l := c.opening role scope e bus supply) h
      rw [execute_bus env hready]
      exact ((does_settle env c.rethrow role _ _).handler_of_some hwork.1).2.trans hwork.2

/-- An execution does to the handlers what a look-up does, or nothing. -/
theorem handlers_execute (c : Command) (bus : Bus σ) (supply : Supply) :
    (c.execute env bus supply).bus.handlers = bus.handlers ∨
      ∃ key, (c.execute env bus supply).bus.handlers = bus.handlers.perform (.resolve key) := by
  cases hhandler : c.handler with
  | some handler => exact .inl (handlers_execute_of_some hhandler bus supply)
  | none =>
      cases hready : c.ready with
      | error err => exact .inl (by rw [execute_of_not_ready env hready])
      | ok ready =>
          obtain ⟨role, scope, e⟩ := ready
          have hfor : c.IsFor env bus supply _ :=
            ⟨hhandler, role, scope, e, _, hready, execute_exchange env hready bus supply, rfl⟩
          rcases hfor.execute.1 with ⟨hsame, -⟩ | ⟨hresolved, -⟩
          · exact .inl hsame
          · exact .inr ⟨_, hresolved⟩

end Command

/-! ## What is done on a bus -/

namespace Bus

variable (env : Environment σ)

/-- Something that is done on a bus. -/
inductive Use (σ : Type) where
  | handlers (action : Handlers.Action)
  | execute (command : Command)
  /-- Something happens to the parties or to the store. -/
  | other (parties : σ) (store : Store)

/-- The bus and the supply after a use. -/
def use (p : Bus σ × Supply) : Use σ → Bus σ × Supply
  | .handlers action =>
      let handlers := p.1.handlers.perform action
      ({ p.1 with registry := handlers.registry, cache := handlers.cache }, p.2)
  | .execute command =>
      let x := command.execute env p.1 p.2
      (x.bus, x.supply)
  | .other parties store => ({ p.1 with parties := parties, store := store }, p.2)

/-- The bus and the supply after a list of uses. -/
def uses (p : Bus σ × Supply) (uses : List (Use σ)) : Bus σ × Supply := uses.foldl (use env) p

variable {env} {key : HandlerKey} {handler : HandlerName}

/-- A handler that has been found stays found. -/
theorem found_use {p : Bus σ × Supply} (h : p.1.cache.find? key = some handler) (u : Use σ) :
    (use env p u).1.cache.find? key = some handler := by
  have hperform : ∀ a, (p.1.handlers.perform a).cache.find? key = some handler :=
    fun a => (Handlers.find?_cache_perform p.1.handlers a key handler).mpr (.inl h)
  cases u with
  | handlers action => exact hperform action
  | execute command =>
      show ((command.execute env p.1 p.2).bus.handlers.cache.find? key) = _
      rcases command.handlers_execute p.1 p.2 with hsame | ⟨k, hresolved⟩
      · rw [hsame]
        exact h
      · rw [hresolved]
        exact hperform _
  | other parties store => exact h

theorem found_uses {p : Bus σ × Supply} (h : p.1.cache.find? key = some handler)
    (us : List (Use σ)) : (uses env p us).1.cache.find? key = some handler := by
  induction us generalizing p with
  | nil => exact h
  | cons u us ih => exact ih (found_use h u)

end Bus

namespace Command

/-- Handlers are established once. After any registrations and look-ups, a look-up of a key finds
what one has found before, and otherwise what is registered at that moment
(`Handlers.resolved_once`). So once a command without a handler of its own has found one, then
whatever is done on the bus, every command for the same role, service and operation without a
handler of its own tells what it has to tell to this handler only, as the first one has. -/
theorem talk_to_one_handler :
    (∀ actions : List Handlers.Action,
      (∀ key handler, Handlers.Answered actions key handler →
        (Handlers.after actions).answer key = some handler) ∧
      (∀ key, (∀ handler, ¬ Handlers.Answered actions key handler) →
        (Handlers.after actions).answer key = Handlers.lastRegistered? key actions) ∧
      (∀ key, (Handlers.after actions).answer key = none →
        Handlers.after (actions ++ [.resolve key]) = Handlers.after actions) ∧
      (∀ key, (Handlers.after actions).answer key =
        (Handlers.after (actions.filter (·.key = key))).answer key) ∧
      ∃ keys : List HandlerKey, keys.Nodup ∧
        (∀ key, key ∈ keys ↔ ∃ handler, Handlers.Answered actions key handler) ∧
        (Handlers.after actions).cache.size = keys.length) ∧
    ∀ {σ : Type} (env : Environment σ) (bus : Bus σ) (supply : Supply) (key : HandlerKey)
      (handler : HandlerName) (c : Command) (us : List (Bus.Use σ)) (c' : Command),
      let x := c.execute env bus supply
      let p := Bus.uses env (x.bus, x.supply) us
      c.IsFor env bus supply key → x.command.handler = some handler →
      c'.IsFor env p.1 p.2 key →
        (∀ call ∈ callsOf callbackKinds x.trace, call.told? = some handler) ∧
        ∀ call ∈ callsOf callbackKinds (c'.execute env p.1 p.2).trace,
          call.told? = some handler := by
  refine ⟨Handlers.resolved_once, ?_⟩
  intro σ env bus supply key handler c us c' x p hc hfound hc'
  obtain ⟨hlooked, htold⟩ := hc.execute
  obtain ⟨hlooked', htold'⟩ := hc'.execute
  -- the first command has looked the key up, so that it is in the cache from then on
  have hcache : x.bus.cache.find? key = some handler := by
    rcases hlooked with ⟨-, hnone⟩ | ⟨hbus, hanswer⟩
    · rw [hnone] at hfound
      cases hfound
    · show x.bus.handlers.cache.find? key = _
      rw [hbus]
      exact Handlers.find?_cache_of_answer (hanswer ▸ hfound)
  have hanswer : p.1.handlers.answer key = some handler :=
    Handlers.answer_of_find? (Bus.found_uses hcache us)
  refine ⟨fun call hcall => (htold call hcall).trans hfound, fun call hcall => ?_⟩
  have hcall' := htold' call hcall
  rcases hlooked' with ⟨-, hnone⟩ | ⟨-, hhandler⟩
  · -- without a handler there is nobody to tell
    obtain ⟨other, hother⟩ := Call.told?_of_mem (mem_callsOf.mp hcall).2
    rw [hcall', hnone] at hother
    cases hother
  · rw [hcall', hhandler, hanswer]

section Books

open Rehearsal

/-- A command that takes an order of a book. -/
def takeOrder : Command :=
  { variant := .oneWay, role := some .receiver, scope := some .request, exchange := some bookOrder }

/-- A new handler is registered for orders after the first one has been taken. The stock takes the
second one all the same. -/
theorem talk_to_one_handler_stock :
    let env := environment ∅ .permissive
    let orders : HandlerKey := ⟨.receiver, "orders", "place"⟩
    let bus : Bus Channel := { parties := {}, registry := Table.empty.insert orders "stock" }
    let x := takeOrder.execute env bus .counting
    let p := Bus.uses env (x.bus, x.supply) [.handlers (.register orders "archive")]
    let y := takeOrder.execute env p.1 p.2
    p.1.registry.find? orders = some "archive" ∧ x.command.handler = some "stock" ∧
      (∃ incoming, callsOf callbackKinds y.trace = [.handleMessage "stock" incoming none]) ∧
      ∀ call ∈ callsOf callbackKinds y.trace, call.told? = some "stock" := by
  intro env orders bus x p y
  have hx : takeOrder.IsFor env bus .counting orders :=
    ⟨rfl, .receiver, .request, bookOrder, bookOrder, rfl, rfl, rfl⟩
  have hy : takeOrder.IsFor env p.1 p.2 orders :=
    ⟨rfl, .receiver, .request, bookOrder, bookOrder, rfl, rfl, rfl⟩
  have htold := (talk_to_one_handler.2 env bus .counting orders "stock" takeOrder
    [.handlers (.register orders "archive")] takeOrder hx rfl hy).2
  exact ⟨rfl, rfl, ⟨_, rfl⟩, htold⟩

end Books

end Command

end ServiceBus
