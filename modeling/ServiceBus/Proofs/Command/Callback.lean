import ServiceBus.Proofs.Command.Moves
import ServiceBus.Proofs.Command.Reception

set_option autoImplicit false

/-! # Callback requests and one-way requests

A sender that takes faults is served like one that does not, as long as the participant takes the
message: the executions of a command as a callback and as a one-way command are the same
(`execute_callback`). On three of the four legs this holds of any participant, since the work is
the same; on a receiver's request (`work_callback_request`) it comes down to what is done when the
policy has accepted the request.

There one difference is left. A callback request is acknowledged before its message is looked at,
a one-way request after it. If the policy leaves no message in the request, then the one is
acknowledged and the other refused, and nothing else tells them apart. -/

namespace ServiceBus

variable {σ : Type} (env : Environment σ)

/-- The handler takes the message of an exchange on a leg: it understands the headers of whatever
message the policy may leave in it, and does not fail. -/
structure Environment.Takes (handler : HandlerName) (role : Role) (scope : Scope) (e : Exchange) :
    Prop where
  understands (s s' : σ) (message : Message)
    (h : (env.parties.enforce e role e.context.agreedPolicy scope s).1.exchange.input =
      some message) : message.notUnderstood? (env.parties.understood handler s') = none
  succeeds (incoming : Incoming) (s : σ) : (env.parties.handleMessage handler incoming s).1 = none

/-- The policy has accepted a request and left no message in it. -/
def AcceptedBare (trace : List Entry) : Prop :=
  ∃ e e', .policy e .receiver .request ⟨e', none⟩ ∈ callsOf [.policy] trace ∧ e'.input = none

namespace Work

variable {l : Leg σ}

/-! ## Messages that are taken -/

theorem deliverMessage_fst_of_taken {handler : HandlerName} {message : Message}
    (hh : l.participant? = some handler)
    (hu : message.notUnderstood? (env.parties.understood handler l.bus.parties) = none)
    (hs : ∀ incoming s, (env.parties.handleMessage handler incoming s).1 = none) :
    (deliverMessage env message l).1 = .ok () := by
  have hask : ∀ incoming (m : Leg σ), (do
      let failure ← ask (env.parties.handleMessage handler incoming) fun failure =>
        .handleMessage handler incoming failure
      check (failure.map (BusError.ofHandler incoming.operation)) : Work σ Unit) m =
        (check ((env.parties.handleMessage handler incoming m.bus.parties).1.map
          (BusError.ofHandler incoming.operation)) (m.called
            (.handleMessage handler incoming
              (env.parties.handleMessage handler incoming m.bus.parties).1)
            (env.parties.handleMessage handler incoming m.bus.parties).2)) :=
    fun _ _ => rfl
  rw [deliverMessage_of_some env hh, hu]
  show (handOver env handler (l.incoming message) (requireHandler l).2).1 = .ok ()
  rw [handOver, bind_of_ok (notify_fst env _ .appIn), hask, hs]
  rfl

/-! ## Accepted requests -/

/-- An accepted request whose message is taken is treated alike. -/
theorem acceptRequest_callback_of_taken {message : Message}
    (hi : l.exchange.inbound l.scope = some message)
    (hd : (deliverMessage env message (acknowledge env l).2).1 = .ok ()) :
    acceptRequest env .callback l = acceptRequest env .oneWay l := by
  have hack := does_acknowledge env l
  have hi' : (acknowledge env l).2.exchange.inbound (acknowledge env l).2.scope = some message := by
    rw [hack.exchange (by decide), hack.scope (by decide), hi]
  have hcallback : acceptRequest env .callback l =
      notify env .finished (deliverMessage env message (acknowledge env l).2).2 := by
    rw [acceptRequest, bind_of_ok (acknowledge_fst env l), deliverOrSendFault,
      bind_inboundMessage_of_some hi', bind_attempt, hd]
  rw [hcallback, acceptRequest, bind_inboundMessage_of_some hi,
    bind_of_ok (acknowledge_fst env l), bind_of_ok hd]

/-- An accepted one-way request without a message fails at once. -/
theorem acceptRequest_oneWay_of_none (hi : l.exchange.inbound l.scope = none) :
    acceptRequest env .oneWay l = (.error (noMessage l.exchange l.scope), l) := by
  rw [acceptRequest, bind_inboundMessage_of_none hi]

/-- An accepted callback request without a message fails when it has been acknowledged. -/
theorem acceptRequest_callback_of_none (hi : l.exchange.inbound l.scope = none) :
    acceptRequest env .callback l =
      (.error (noMessage l.exchange l.scope), (acknowledge env l).2) := by
  have hack := does_acknowledge env l
  have hi' : (acknowledge env l).2.exchange.inbound (acknowledge env l).2.scope = none := by
    rw [hack.exchange (by decide), hack.scope (by decide), hi]
  rw [acceptRequest, bind_of_ok (acknowledge_fst env l), deliverOrSendFault,
    bind_inboundMessage_of_none hi', hack.exchange (by decide), hack.scope (by decide)]

/-! ## Requests -/

/-- Up to the policy's ruling, a callback request goes the way of a one-way request. -/
theorem incomingRequest_callback_of_active (h : l.exchange.isError = false) :
    incomingRequest env .callback l =
      match (l.rulingOnArrival env .oneWay).violation with
      | some violation =>
          rejectRequest env (BusError.ofViolation violation) .oneWay (l.judged env .oneWay)
      | none => acceptRequest env .callback (l.judged env .oneWay) :=
  incomingRequest_of_active env .callback h

/-- A request whose message the participant takes goes the same way as a one-way and as a callback
request. -/
theorem incomingRequest_callback_of_taken {handler : HandlerName} {message : Message}
    (hh : l.handler = some handler) (ht : env.Takes handler l.role l.scope l.exchange)
    (hscope : l.scope = .request) (he : l.exchange.isError = false)
    (hv : (l.rulingOnArrival env .oneWay).violation = none)
    (hi : (l.rulingOnArrival env .oneWay).exchange.input = some message) :
    incomingRequest env .callback l = incomingRequest env .oneWay l := by
  have hj := steps_judged env .oneWay (l := l)
  have hd := steps_atDelivery env .oneWay (l := l)
  have hinbound : (l.judged env .oneWay).exchange.inbound (l.judged env .oneWay).scope =
      some message := by
    rw [exchange_judged, hj.scope (by decide), hscope]
    exact hi
  have hunderstood := ht.understands (arrive env .oneWay l).2.bus.parties
    (l.atDelivery env .oneWay).bus.parties message (by rw [← rulingOnArrival_eq]; exact hi)
  have htaken := deliverMessage_fst_of_taken env (participant?_of_handler hd (by decide) hh)
    hunderstood ht.succeeds
  rw [incomingRequest_callback_of_active env he, incomingRequest_of_active env _ he, hv]
  exact acceptRequest_callback_of_taken env hinbound htaken

/-- A request that has been accepted without a message has been judged so on its arrival. -/
theorem ruling_of_acceptedBare (he : l.exchange.isError = false)
    (hp : callsOf [.policy] l.trace = [])
    (h : AcceptedBare (incomingRequest env .oneWay l).2.trace) :
    (l.rulingOnArrival env .oneWay).violation = none ∧
      (l.rulingOnArrival env .oneWay).exchange.input = none := by
  obtain ⟨e, e', hmem, hnone⟩ := h
  rw [policies_of_active env _ he, hp, List.nil_append, List.mem_singleton] at hmem
  injection hmem with _ _ _ hruling
  rw [← hruling]
  exact ⟨rfl, hnone⟩

/-- Requests go the same way as one-way and as callback requests, except where the policy accepts
one and leaves no message in it. -/
theorem incomingRequest_callback {handler : HandlerName} (hh : l.handler = some handler)
    (ht : env.Takes handler l.role l.scope l.exchange) (hscope : l.scope = .request)
    (hp : callsOf [.policy] l.trace = []) :
    (incomingRequest env .callback l = incomingRequest env .oneWay l ∧
      ¬ AcceptedBare (incomingRequest env .oneWay l).2.trace) ∨
      l.exchange.isError = false ∧ (l.rulingOnArrival env .oneWay).violation = none ∧
        (l.rulingOnArrival env .oneWay).exchange.input = none := by
  cases he : l.exchange.isError with
  | true =>
      refine .inl ⟨?_, ?_⟩
      · rw [incomingRequest_of_isError env _ he, incomingRequest_of_isError env _ he]
      · rintro ⟨e, e', hmem, -⟩
        rw [policies_of_isError env _ he, hp] at hmem
        cases hmem
  | false =>
      cases hv : (l.rulingOnArrival env .oneWay).violation with
      | some violation =>
          refine .inl ⟨?_, fun hbare => ?_⟩
          · rw [incomingRequest_callback_of_active env he, incomingRequest_of_active env _ he, hv]
          · rw [(ruling_of_acceptedBare env he hp hbare).1] at hv
            cases hv
      | none =>
          cases hi : (l.rulingOnArrival env .oneWay).exchange.input with
          | none => exact .inr ⟨rfl, rfl, rfl⟩
          | some message =>
              refine .inl ⟨incomingRequest_callback_of_taken env hh ht hscope he hv hi, ?_⟩
              intro hbare
              rw [(ruling_of_acceptedBare env he hp hbare).2] at hi
              cases hi

end Work

namespace Command

open Work

variable {c : Command} {role : Role} {scope : Scope} {e : Exchange}

/-! ## The work of a command -/

/-- The command, to go about its exchange as the variant tells. -/
def going (c : Command) (variant : Variant) : Command := { c with variant := variant }

/-- The leg `m` is that of a receiver's request, begun as `l`, which the policy has just accepted
without a message. -/
structure Bare (l m : Leg σ) : Prop where
  steps : Leg.Steps (.find :: rulingActs) l m
  closed : m.closed = l.closed
  policies : callsOf [.policy] m.trace = [.policy l.exchange .receiver .request ⟨m.exchange, none⟩]
  input : m.exchange.input = none

/-- A leg on which a participant has been found, when the policy has accepted its request without a
message. -/
theorem bare_judged {l k : Leg σ} (hfind : Leg.Steps [.find] l k) (hrole : l.role = .receiver)
    (hscope : l.scope = .request) (hp : callsOf [.policy] l.trace = [])
    (hv : (k.rulingOnArrival env .oneWay).violation = none)
    (hi : (k.rulingOnArrival env .oneWay).exchange.input = none) :
    Bare l (k.judged env .oneWay) where
  steps := (hfind.mono (by decide)).trans ((steps_judged env .oneWay).mono (by decide))
  closed := by
    -- that a request has come in closes nothing
    rw [Leg.judged, (does_applyPolicy env _).closed (by decide), ← hfind.closed (by decide)]
    exact Bool.or_false _
  policies := by
    have hruling : k.rulingOnArrival env .oneWay = ⟨(k.judged env .oneWay).exchange, none⟩ := by
      rw [exchange_judged, ← hv]
    rw [policies_judged, hfind.callsOf (by decide), hp, hfind.exchange (by decide),
      hfind.role.trans hrole, (hfind.scope (by decide)).trans hscope, hruling, List.nil_append]
  input := by rw [exchange_judged, hi]

/-- The work on a receiver's request is the same for callback and one-way commands, except where
the policy accepts a request without a message. -/
theorem work_callback_request {l : Leg σ} (hrole : l.role = .receiver)
    (hscope : l.scope = .request) (hp : callsOf [.policy] l.trace = [])
    (ht : ∀ handler, l.participant? = some handler →
      env.Takes handler .receiver .request l.exchange) :
    (work env .callback .receiver .request l = work env .oneWay .receiver .request l ∧
      ¬ AcceptedBare (work env .oneWay .receiver .request l).2.trace) ∨
      ∃ m, Bare l m ∧
        work env .oneWay .receiver .request l = (.error (noMessage m.exchange .request), m) ∧
        work env .callback .receiver .request l =
          (.error (noMessage m.exchange .request), (acknowledge env m).2) := by
  have hfind := does_resolveHandler l
  have hpolicies : callsOf [.policy] (resolveHandler l).2.trace = [] := by
    rw [hfind.callsOf (by decide), hp]
  cases hh : l.participant? with
  | none =>
      rw [work_request_of_none env hh, work_request_of_none env hh]
      refine .inl ⟨rfl, ?_⟩
      rintro ⟨e, e', hmem, -⟩
      rw [hpolicies] at hmem
      cases hmem
  | some handler =>
      rw [work_request_of_some env hh, work_request_of_some env hh]
      have hs := (hfind.scope (by decide)).trans hscope
      have hhandler := (resolveHandler_handler l).trans hh
      have hk : env.Takes handler (resolveHandler l).2.role (resolveHandler l).2.scope
          (resolveHandler l).2.exchange := by
        rw [hfind.role, hrole, hs, hfind.exchange (by decide)]
        exact ht handler hh
      -- from here on, only these facts about the leg matter
      generalize (resolveHandler l).2 = k at hfind hs hpolicies hhandler hk ⊢
      rcases incomingRequest_callback env hhandler hk hs hpolicies with hsame | ⟨hactive, hv, hi⟩
      · exact .inl hsame
      · have hj := steps_judged env .oneWay (l := k)
        have hsj : (k.judged env .oneWay).scope = .request := (hj.scope (by decide)).trans hs
        have hbare := bare_judged env hfind hrole hscope hp hv hi
        have hm : (k.judged env .oneWay).exchange.inbound (k.judged env .oneWay).scope = none := by
          rw [hsj]
          exact hbare.input
        refine .inr ⟨k.judged env .oneWay, hbare, ?_, ?_⟩
        · rw [incomingRequest_of_active env _ hactive, hv, ← hsj]
          exact acceptRequest_oneWay_of_none env hm
        · rw [incomingRequest_callback_of_active env hactive, hv, ← hsj]
          exact acceptRequest_callback_of_none env hm

/-! ## What comes after the work -/

/-- The leg of a request that has failed, when this has been recorded and notified. -/
def failedLeg (err : BusError) (m : Leg σ) : Leg σ :=
  (notifyFailure env err ((now m).2.failing err)).2

/-- A request that has failed before its end is notified and then refused. -/
theorem settle_failed_request (rethrow : Bool) (err : BusError) {m : Leg σ}
    (hscope : m.scope = .request) (hclosed : m.closed = false) :
    settle env rethrow .receiver (.error err) m = refuse env err (failedLeg env err m) := by
  have hopen : ¬ (now m).2.closed = true := by
    rw [show (now m).2.closed = m.closed from rfl, hclosed]
    exact Bool.false_ne_true
  have hclose : (close env (.error err) (now m).2).2 = failedLeg env err m := by
    rw [close_error, if_neg hopen]
    rfl
  have hs : (close env (.error err) (now m).2).2.scope = .request :=
    ((does_close env (.error err) _).scope (by decide)).trans hscope
  rw [settle_eq, conclude_request env rethrow (.error err) hs, hclose]

/-! ## Executions -/

/-- The execution `y` is the same as `x`, but for the variant of the command. -/
structure SameCourse (x y : Execution σ Unit) : Prop where
  result : y.result = x.result
  command : y.command = { x.command with variant := .callback }
  bus : y.bus = x.bus
  supply : y.supply = x.supply
  trace : y.trace = x.trace

/-- The request, without a message in it, has been refused by `x` and acknowledged by `y`, and
nothing else tells them apart. -/
structure RefusedOrAcknowledged (x y : Execution σ Unit) (e : Exchange) : Prop where
  input : e.input = none
  result : x.result = .ok () ∧ y.result = .ok ()
  command : y.command = { x.command with variant := .callback }
  exchange : x.command.exchange = some e
  failure : x.command.failure = some (noMessage e .request)
  store : y.bus.store = x.bus.store
  cache : y.bus.cache = x.bus.cache
  supply : y.supply = x.supply
  trace : ∃ before event refusal acknowledgement, callsOf signalKinds before = [] ∧
    x.trace = before ++ [⟨.notify event, x.bus.store⟩,
      ⟨.refuse e (noMessage e .request) refusal, x.bus.store⟩] ∧
    y.trace = before ++ [⟨.acknowledge e acknowledgement, x.bus.store⟩,
      ⟨.notify event, x.bus.store⟩]

theorem opening_going (c : Command) (variant : Variant) (bus : Bus σ) (supply : Supply) :
    (c.going variant).opening role scope e bus supply = c.opening role scope e bus supply := rfl

theorem course_going (c : Command) (variant : Variant) (l : Leg σ) :
    (c.going variant).course env role scope l =
      settle env c.rethrow role (work env variant role scope l).1
        (work env variant role scope l).2 := rfl

/-- Commands whose work is the same are executed alike. -/
theorem sameCourse_of_work (h : c.ready = .ok (role, scope, e)) (bus : Bus σ) (supply : Supply)
    (hwork : work env .callback role scope (c.opening role scope e bus supply) =
      work env .oneWay role scope (c.opening role scope e bus supply)) :
    SameCourse ((c.going .oneWay).execute env bus supply)
      ((c.going .callback).execute env bus supply) := by
  have ho : (c.going .oneWay).ready = .ok (role, scope, e) := h
  have hc : (c.going .callback).ready = .ok (role, scope, e) := h
  have hcourse : (c.going .callback).course env role scope
      ((c.going .callback).opening role scope e bus supply) =
      (c.going .oneWay).course env role scope
        ((c.going .oneWay).opening role scope e bus supply) := by
    rw [opening_going, opening_going, course_going, course_going, hwork]
  have hended : work env (c.going .callback).variant role scope
      ((c.going .callback).opening role scope e bus supply) =
      work env (c.going .oneWay).variant role scope
        ((c.going .oneWay).opening role scope e bus supply) := hwork
  constructor
  · rw [execute_result env ho, execute_result env hc, hcourse]
  · rw [execute_command env ho, execute_command env hc, hcourse, hended]
    rfl
  · rw [execute_bus env ho, execute_bus env hc, hcourse]
  · rw [execute_supply env ho, execute_supply env hc, hcourse]
  · rw [execute_trace env ho, execute_trace env hc, hcourse]

/-- A request that the policy has accepted without a message is refused as a one-way request, and
as a callback request it has been acknowledged by then. -/
theorem refusedOrAcknowledged_of_bare (h : c.ready = .ok (.receiver, .request, e)) (bus : Bus σ)
    (supply : Supply) {m : Leg σ} (hm : Bare (c.opening .receiver .request e bus supply) m)
    (ho : work env .oneWay .receiver .request (c.opening .receiver .request e bus supply) =
      (.error (noMessage m.exchange .request), m))
    (hc : work env .callback .receiver .request (c.opening .receiver .request e bus supply) =
      (.error (noMessage m.exchange .request), (acknowledge env m).2)) :
    RefusedOrAcknowledged ((c.going .oneWay).execute env bus supply)
      ((c.going .callback).execute env bus supply) m.exchange := by
  have hro : (c.going .oneWay).ready = .ok (.receiver, .request, e) := h
  have hrc : (c.going .callback).ready = .ok (.receiver, .request, e) := h
  have hscope : m.scope = .request := hm.steps.scope (by decide)
  have hsignalled : m.signalled = false := hm.steps.signalled_eq (by decide)
  have hcalls : callsOf signalKinds m.trace = [] := hm.steps.callsOf (by decide)
  let err := noMessage m.exchange .request
  have hx : (c.going .oneWay).course env .receiver .request
      ((c.going .oneWay).opening .receiver .request e bus supply) =
      refuse env err (failedLeg env err m) := by
    rw [opening_going, course_going, ho]
    exact settle_failed_request env c.rethrow err hscope hm.closed
  have hrefuse : refuse env err (failedLeg env err m) = _ :=
    signal_eq _ (fun e failure => .refuse e err failure) (l := failedLeg env err m) hsignalled
  -- an acknowledged leg differs in the mark, in the parties and in one call
  have hacknowledge : acknowledge env m = _ :=
    signal_eq env.parties.acknowledge (fun e failure => .acknowledge e failure) hsignalled
  have hy : (c.going .callback).course env .receiver .request
      ((c.going .callback).opening .receiver .request e bus supply) =
      (.ok (), failedLeg env err (acknowledge env m).2) := by
    have hack := does_acknowledge env m
    rw [opening_going, course_going, hc]
    refine (settle_failed_request env c.rethrow err ?_ ?_).trans ?_
    · rw [hack.scope (by decide), hscope]
    · rw [hack.closed (by decide)]
      exact hm.closed
    · exact signal_of_signalled _ _ (l := failedLeg env err (acknowledge env m).2)
        (acknowledge_signalled env m)
  rw [hrefuse] at hx
  rw [hacknowledge] at hy hc
  constructor
  · exact hm.input
  · rw [execute_result env hro, execute_result env hrc, hx, hy]
    exact ⟨rfl, rfl⟩
  · rw [execute_command env hro, execute_command env hrc, hx, hy]
    rw [show (c.going .oneWay).variant = .oneWay from rfl,
      show (c.going .callback).variant = .callback from rfl, opening_going, opening_going, ho, hc]
    rfl
  · rw [execute_exchange env hro, hx]
    rfl
  · rw [execute_failure env hro, hx]
    rfl
  · rw [execute_bus env hro, execute_bus env hrc, hx, hy]
    rfl
  · rw [execute_bus env hro, execute_bus env hrc, hx, hy]
    rfl
  · rw [execute_supply env hro, execute_supply env hrc, hx, hy]
    rfl
  · rw [execute_trace env hro, execute_trace env hrc, execute_bus env hro, hx, hy]
    refine ⟨m.trace, _, _, _, hcalls, List.append_assoc _ [_] [_], List.append_assoc _ [_] [_]⟩

/-- A sender that takes faults is served like one that does not, if the participant takes the
message: but for the variant, the executions are the same on every leg, unless the policy accepts
a request and leaves no message in it. Then the one-way request is refused, since it carries no
message; the callback request fails for the same reason, but it has been acknowledged before. -/
theorem execute_callback (h : c.ready = .ok (role, scope, e)) (bus : Bus σ) (supply : Supply)
    (ht : ∀ handler, c.participant? role e bus = some handler → env.Takes handler role scope e) :
    let x := (c.going .oneWay).execute env bus supply
    let y := (c.going .callback).execute env bus supply
    (¬ AcceptedBare x.trace → SameCourse x y) ∧
      (AcceptedBare x.trace → ∃ e', RefusedOrAcknowledged x y e') := by
  intro x y
  have ho : (c.going .oneWay).ready = .ok (role, scope, e) := h
  have hpolicies : callsOf [.policy] x.trace =
      callsOf [.policy] (work env .oneWay role scope (c.opening role scope e bus supply)).2.trace :=
    callsOf_execute env ho bus supply (by decide) (by decide)
  by_cases hrequest : role = .receiver ∧ scope = .request
  · obtain ⟨rfl, rfl⟩ := hrequest
    rcases work_callback_request env (l := c.opening .receiver .request e bus supply) rfl rfl rfl
      (fun handler hh => ht handler (by rw [← hh, opening_participant?]))
      with ⟨hwork, hbare⟩ | ⟨m, hm, hone, hcallback⟩
    · refine ⟨fun _ => sameCourse_of_work env h bus supply hwork, fun hb => absurd ?_ hbare⟩
      rw [AcceptedBare, ← hpolicies]
      exact hb
    · refine ⟨fun hb => absurd ?_ hb,
        fun _ => ⟨m.exchange, refusedOrAcknowledged_of_bare env h bus supply hm hone hcallback⟩⟩
      refine ⟨e, m.exchange, ?_, hm.input⟩
      rw [hpolicies, hone, hm.policies]
      exact List.mem_cons_self
  · -- the work on the other legs is the same by definition
    have hwork : work env .callback role scope (c.opening role scope e bus supply) =
        work env .oneWay role scope (c.opening role scope e bus supply) := by
      cases role with
      | sender => cases scope <;> rfl
      | receiver =>
          cases scope with
          | request => exact absurd ⟨rfl, rfl⟩ hrequest
          | response => rfl
    refine ⟨fun _ => sameCourse_of_work env h bus supply hwork, ?_⟩
    rintro ⟨e₀, e', hmem, -⟩
    have hdeeds : .respond ∉ deeds .oneWay role scope := by
      cases role <;> cases scope <;> decide
    have hasked := (asked_course env (c.going .oneWay) role scope e bus supply hdeeds).asked
    rw [execute_trace env ho] at hmem
    obtain ⟨rfl, rfl⟩ := hasked _ _ _ _ hmem
    exact absurd ⟨rfl, rfl⟩ hrequest

section Books

open Rehearsal

/-- The command for a receiver's request. -/
def receipt (e : Exchange) : Command :=
  { variant := .callback, role := some .receiver, scope := some .request, exchange := some e
    handler := some "stock" }

/-- An order of a book is taken in the same way whether the shop takes faults or not. -/
theorem execute_callback_book :
    let env := environment ∅ .permissive
    let x := ((receipt bookOrder).going .oneWay).execute env { parties := {} } .counting
    let y := ((receipt bookOrder).going .callback).execute env { parties := {} } .counting
    (∀ handler, env.Takes handler .receiver .request bookOrder) ∧ ¬ AcceptedBare x.trace ∧
      SameCourse x y := by
  intro env x y
  have ht : ∀ handler, env.Takes handler .receiver .request bookOrder := by
    refine fun handler => ⟨fun s s' message h => ?_, fun incoming s => rfl⟩
    cases h
    rfl
  have hb : ¬ AcceptedBare x.trace := by
    rintro ⟨e, e', hmem, hi⟩
    have hcalls : callsOf [.policy] x.trace =
        [.policy bookOrder .receiver .request ⟨bookOrder, none⟩] := rfl
    rw [hcalls, List.mem_singleton] at hmem
    cases hmem
    cases hi
  exact ⟨ht, hb,
    (execute_callback env (c := receipt bookOrder) rfl { parties := {} } .counting
      fun handler _ => ht handler).1 hb⟩

/-- An order without a message: the transport learns of a one-way order that it was refused, and
of a callback order that it was taken. -/
theorem bare_order_acknowledged :
    let env := environment ∅ .permissive
    let x := ((receipt bareOrder).going .oneWay).execute env { parties := {} } .counting
    let y := ((receipt bareOrder).going .callback).execute env { parties := {} } .counting
    callsOf signalKinds x.trace = [.refuse bareOrder (noMessage bareOrder .request) none] ∧
      callsOf signalKinds y.trace = [.acknowledge bareOrder none] :=
  ⟨rfl, rfl⟩

end Books

end Command

end ServiceBus
