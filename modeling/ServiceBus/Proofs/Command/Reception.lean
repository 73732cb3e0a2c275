import ServiceBus.Proofs.Command.Signals
import ServiceBus.Proofs.Leg.Reception

set_option autoImplicit false

/-! # What a receiver's participant is told of a request

An execution of a receiver's request takes one of six courses (`RequestCourse`), which differ in
what the policy and the participant are asked. The participant gets the message exactly if the
request is to be delivered (`Delivers`), and learns of a failure exactly if the request bounces
(`Bounces`); either is one call, and there is never a second one (`request_told_exactly`). -/

namespace ServiceBus.Command

open Work

variable {σ : Type} (env : Environment σ) (c : Command) (e : Exchange) (bus : Bus σ)
  (supply : Supply)

/-- The leg of a request once its participant has been looked up. -/
def reception : Leg σ := (resolveHandler (c.opening .receiver .request e bus supply)).2

/-- The headers that a handler understands when the message of a request is delivered to it. -/
def understoodBy (handler : HandlerName) : List String :=
  env.parties.understood handler ((c.reception e bus supply).atDelivery env c.variant).bus.parties

/-! ## The courses -/

/-- The courses of a receiver's request, with the calls of the policy and of the participant. -/
inductive RequestCourse (policies callbacks : List Call) : Prop where
  /-- Nobody takes the request. -/
  | unresolved (h : c.participant? .receiver e bus = none) (hp : policies = [])
      (hc : callbacks = [])
  /-- The transport has marked the request as failed. -/
  | failed (handler : HandlerName) (h : c.participant? .receiver e bus = some handler)
      (he : e.isError = true) (hp : policies = []) (context : CallContext)
      (failure : Option HandlerError)
      (hc : callbacks = [.handleError handler e.failureError context failure])
  /-- The policy rejects the request. -/
  | rejected (handler : HandlerName) (h : c.participant? .receiver e bus = some handler)
      (he : e.isError = false) (e' : Exchange) (violation : PolicyViolation)
      (hp : policies = [.policy e .receiver .request ⟨e', some violation⟩])
      (context : CallContext) (failure : Option HandlerError)
      (hc : callbacks =
        [.handleError handler (BusError.ofViolation violation) context failure])
  /-- The policy accepts the request, and leaves no message in it. -/
  | empty (handler : HandlerName) (h : c.participant? .receiver e bus = some handler)
      (he : e.isError = false) (e' : Exchange)
      (hp : policies = [.policy e .receiver .request ⟨e', none⟩]) (hi : e'.input = none)
      (hc : callbacks = [])
  /-- The message has a header that the participant has to understand and does not. -/
  | notUnderstood (handler : HandlerName) (h : c.participant? .receiver e bus = some handler)
      (he : e.isError = false) (e' : Exchange)
      (hp : policies = [.policy e .receiver .request ⟨e', none⟩]) (message : Message)
      (hi : e'.input = some message) (header : String)
      (hu : message.notUnderstood? (c.understoodBy env e bus supply handler) = some header)
      (hc : callbacks = [])
  /-- The message is delivered. -/
  | delivered (handler : HandlerName) (h : c.participant? .receiver e bus = some handler)
      (he : e.isError = false) (e' : Exchange)
      (hp : policies = [.policy e .receiver .request ⟨e', none⟩]) (message : Message)
      (hi : e'.input = some message)
      (hu : message.notUnderstood? (c.understoodBy env e bus supply handler) = none)
      (incoming : Incoming) (hm : incoming.message = message) (failure : Option HandlerError)
      (hc : callbacks = [.handleMessage handler incoming failure])

variable {c e}

/-- What is known of the leg of a request when its participant has been looked up. -/
structure Received (handler : HandlerName) (e : Exchange) (l : Leg σ) : Prop where
  exchange : l.exchange = e
  role : l.role = .receiver
  scope : l.scope = .request
  handler : l.handler = some handler
  policies : callsOf [.policy] l.trace = []
  callbacks : callsOf callbackKinds l.trace = []
  acknowledgements : callsOf [.acknowledge] l.trace = []
  signalled : l.signalled = false

theorem received {handler : HandlerName} (h : c.participant? .receiver e bus = some handler) :
    Received handler e (c.reception e bus supply) := by
  have hfind := does_resolveHandler (c.opening .receiver .request e bus supply)
  have hparticipant := opening_participant? c .receiver .request e bus supply
  exact ⟨hfind.exchange (by decide), hfind.role, hfind.scope (by decide),
    (resolveHandler_handler _).trans (hparticipant.trans h), hfind.callsOf (by decide),
    hfind.callsOf (by decide), hfind.callsOf (by decide), hfind.signalled_eq (by decide)⟩

section Received

variable {handler : HandlerName} {l : Leg σ} (hl : Received handler e l)

include hl

/-- The participant learns that the transport has marked the request as failed. -/
theorem Received.callbacks_of_isError (he : e.isError = true) (variant : Variant) :
    ∃ context failure, callsOf callbackKinds (incomingRequest env variant l).2.trace =
      [.handleError handler e.failureError context failure] := by
  have hle : l.exchange.isError = true := by rw [hl.exchange, he]
  have hh : l.participant? = some handler := by rw [Leg.participant?, hl.handler]
  obtain ⟨failure, htold⟩ := callbacks_turnAway env hh l.exchange.failureError
  refine ⟨l.exchange.context, failure, ?_⟩
  rw [incomingRequest_of_isError env variant hle, htold, hl.callbacks, hl.exchange]
  rfl

variable (he : e.isError = false)

include he

/-- The policy is asked about the request, once. -/
theorem Received.policies_of_active (variant : Variant) :
    callsOf [.policy] (incomingRequest env variant l).2.trace =
      [.policy e .receiver .request (l.rulingOnArrival env variant)] := by
  rw [Work.policies_of_active env variant (by rw [hl.exchange, he]), hl.policies, hl.exchange,
    hl.role, hl.scope, List.nil_append]

variable {variant : Variant}

/-- The participant learns that the policy has rejected the request. -/
theorem Received.callbacks_of_rejected {violation : PolicyViolation}
    (hv : (l.rulingOnArrival env variant).violation = some violation) :
    ∃ context failure, callsOf callbackKinds (incomingRequest env variant l).2.trace =
      [.handleError handler (BusError.ofViolation violation) context failure] := by
  obtain ⟨failure, htold⟩ := Work.callbacks_of_rejected env (by rw [hl.exchange, he]) hv hl.handler
  rw [hl.callbacks] at htold
  exact ⟨_, failure, htold⟩

variable (hv : (l.rulingOnArrival env variant).violation = none)

include hv

/-- The participant is told nothing of a request that comes without a message. -/
theorem Received.callbacks_of_accepted_none
    (hi : (l.rulingOnArrival env variant).exchange.input = none) :
    callsOf callbackKinds (incomingRequest env variant l).2.trace = [] := by
  rw [Work.callbacks_of_accepted_none env (by rw [hl.exchange, he]) hv (by rw [hl.scope]; exact hi),
    hl.callbacks]

/-- Of any other request that the policy accepts, the participant gets the message if it
understands the headers that it has to. -/
theorem Received.callbacks_of_accepted_some {message : Message}
    (hi : (l.rulingOnArrival env variant).exchange.input = some message) :
    let understood := env.parties.understood handler (l.atDelivery env variant).bus.parties
    let callbacks := callsOf callbackKinds (incomingRequest env variant l).2.trace
    (message.notUnderstood? understood = none →
      ∃ incoming failure, incoming.message = message ∧
        callbacks = [.handleMessage handler incoming failure]) ∧
    (∀ header, message.notUnderstood? understood = some header → callbacks = []) := by
  intro understood callbacks
  have hd := steps_atDelivery env variant (l := l)
  have hh := participant?_of_handler hd (by decide) hl.handler
  have hnone : callsOf callbackKinds (l.atDelivery env variant).trace = [] := by
    rw [hd.callsOf (by decide), hl.callbacks]
  have hdelivered : callbacks = callsOf callbackKinds
      (deliverMessage env message (l.atDelivery env variant)).2.trace :=
    (incomingRequest_of_accepted_some env (by rw [hl.exchange, he]) hv
      (by rw [hl.scope]; exact hi)).2
  constructor
  · intro hu
    obtain ⟨failure, -, htold⟩ := deliverMessage_of_understood env hh hu
    exact ⟨(l.atDelivery env variant).incoming message, failure, rfl,
      by rw [hdelivered, htold, hnone]; rfl⟩
  · intro header hu
    rw [hdelivered, (deliverMessage_of_not_understood env hh hu).2, hnone]

end Received

/-- The failure of a request's execution is that of its work. -/
theorem execute_request_failure (h : c.ready = .ok (.receiver, .request, e)) (bus : Bus σ)
    (supply : Supply) :
    (c.execute env bus supply).command.failure = failureOf
      (work env c.variant .receiver .request (c.opening .receiver .request e bus supply)).1 := by
  have hopen : (c.opening .receiver .request e bus supply).failure = none := rfl
  rw [execute_failure env h]
  generalize c.opening .receiver .request e bus supply = l at hopen ⊢
  have hwork := does_work_request env c.variant l
  -- the work on a request records no failure of its own
  rw [course_eq_settle, settle_failure, hwork.failure (by decide), hopen, Option.or_none]

theorem execute_request_course (h : c.ready = .ok (.receiver, .request, e)) :
    RequestCourse env c e bus supply (callsOf [.policy] (c.execute env bus supply).trace)
      (callsOf callbackKinds (c.execute env bus supply).trace) := by
  have hparticipant := opening_participant? c .receiver .request e bus supply
  rw [callsOf_execute env h bus supply (by decide) (by decide),
    callsOf_execute env h bus supply (by decide) (by decide)]
  cases hh : c.participant? .receiver e bus with
  | none =>
      have hfind := does_resolveHandler (c.opening .receiver .request e bus supply)
      rw [work_request_of_none env (hparticipant.trans hh)]
      exact .unresolved hh (hfind.callsOf (by decide)) (hfind.callsOf (by decide))
  | some handler =>
      have hl := received bus supply hh
      rw [work_request_of_some env (hparticipant.trans hh), ← reception]
      cases he : e.isError with
      | true =>
          obtain ⟨context, failure, hcalls⟩ := hl.callbacks_of_isError env he c.variant
          refine .failed handler hh he ?_ context failure hcalls
          rw [policies_of_isError env c.variant (by rw [hl.exchange, he]), hl.policies]
      | false =>
          have hasked := hl.policies_of_active env he c.variant
          cases hr : (c.reception e bus supply).rulingOnArrival env c.variant with
          | mk e' v =>
              rw [hr] at hasked
              cases v with
              | some violation =>
                  obtain ⟨context, failure, hcalls⟩ :=
                    hl.callbacks_of_rejected env he (by rw [hr])
                  exact .rejected handler hh he e' violation hasked context failure hcalls
              | none =>
                  have hv : ((c.reception e bus supply).rulingOnArrival env c.variant).violation =
                    none := by rw [hr]
                  cases hi : e'.input with
                  | none =>
                      exact .empty handler hh he e' hasked hi
                        (hl.callbacks_of_accepted_none env he hv (by rw [hr, hi]))
                  | some message =>
                      obtain ⟨hyes, hno⟩ :=
                        hl.callbacks_of_accepted_some env he hv (by rw [hr, hi])
                      cases hu : message.notUnderstood? (c.understoodBy env e bus supply handler)
                        with
                      | some header =>
                          exact .notUnderstood handler hh he e' hasked message hi header hu
                            (hno header hu)
                      | none =>
                          obtain ⟨incoming, failure, hm, hcalls⟩ := hyes hu
                          exact .delivered handler hh he e' hasked message hi hu incoming hm
                            failure hcalls

/-! ## Deliveries and bounces -/

section Told

variable (c) (e) {policies callbacks : List Call} {handler : HandlerName}

/-- The request is to be delivered to the handler, as the message `message`: it is not marked as
failed, the policy accepts it with this message in it, and the handler understands every header
that it has to. -/
structure Delivers (policies : List Call) (handler : HandlerName) (message : Message) : Prop where
  found : c.participant? .receiver e bus = some handler
  active : e.isError = false
  accepted : ∃ e', policies = [.policy e .receiver .request ⟨e', none⟩] ∧ e'.input = some message
  understood : ∀ header ∈ message.mustUnderstand.keys,
    header ∈ c.understoodBy env e bus supply handler

/-- The handler is to learn of a failure: the one that the request is marked with, or the
violation for which the policy rejects it. -/
inductive Bounces (policies : List Call) (handler : HandlerName) : BusError → Prop where
  | failed (found : c.participant? .receiver e bus = some handler) (he : e.isError = true) :
      Bounces policies handler e.failureError
  | rejected (found : c.participant? .receiver e bus = some handler) (he : e.isError = false)
      (e' : Exchange) (violation : PolicyViolation)
      (hp : policies = [.policy e .receiver .request ⟨e', some violation⟩]) :
      Bounces policies handler (BusError.ofViolation violation)

variable {env c e bus supply}

/-- Nothing is left that a handler does not understand if it understands each header that it
has to. -/
theorem notUnderstood?_eq_none_iff {message : Message} {understood : List String} :
    message.notUnderstood? understood = none ↔
      ∀ header ∈ message.mustUnderstand.keys, header ∈ understood := by
  simp [Message.notUnderstood?, List.find?_eq_none]

theorem RequestCourse.delivers_iff (h : RequestCourse env c e bus supply policies callbacks)
    (handler : HandlerName) (message : Message) :
    Delivers env c e bus supply policies handler message ↔
      ∃ incoming failure, incoming.message = message ∧
        callbacks = [.handleMessage handler incoming failure] := by
  constructor
  · intro hd
    obtain ⟨hfound, hactive, ⟨e₀, hp₀, hi₀⟩, hunderstood⟩ := hd
    -- each of the other courses is at odds with one of the conditions
    cases h with
    | unresolved hh => rw [hh] at hfound; cases hfound
    | failed _ _ he => rw [he] at hactive; cases hactive
    | rejected _ _ _ e' violation hp => rw [hp] at hp₀; cases hp₀
    | empty _ _ _ e' hp hi => rw [hp] at hp₀; cases hp₀; rw [hi] at hi₀; cases hi₀
    | notUnderstood _ hh _ e' hp m hi header hu =>
        rw [hp] at hp₀
        cases hp₀
        rw [hi] at hi₀
        cases hi₀
        rw [hh] at hfound
        cases hfound
        rw [notUnderstood?_eq_none_iff.mpr hunderstood] at hu
        cases hu
    | delivered _ hh _ e' hp m hi _ incoming hm failure hc =>
        rw [hp] at hp₀
        cases hp₀
        rw [hi] at hi₀
        cases hi₀
        rw [hh] at hfound
        cases hfound
        exact ⟨incoming, failure, hm, hc⟩
  · rintro ⟨incoming₀, failure₀, rfl, hc₀⟩
    -- no other course tells a message
    cases h with
    | delivered _ hh he e' hp m hi hu incoming hm failure hc =>
        rw [hc] at hc₀
        cases hc₀
        subst hm
        exact ⟨hh, he, ⟨e', hp, hi⟩, notUnderstood?_eq_none_iff.mp hu⟩
    | unresolved _ _ hc => rw [hc] at hc₀; cases hc₀
    | failed _ _ _ _ _ _ hc => rw [hc] at hc₀; cases hc₀
    | rejected _ _ _ _ _ _ _ _ hc => rw [hc] at hc₀; cases hc₀
    | empty _ _ _ _ _ _ hc => rw [hc] at hc₀; cases hc₀
    | notUnderstood _ _ _ _ _ _ _ _ _ hc => rw [hc] at hc₀; cases hc₀

theorem RequestCourse.bounces_iff (h : RequestCourse env c e bus supply policies callbacks)
    (handler : HandlerName) (err : BusError) :
    Bounces c e bus policies handler err ↔
      ∃ context failure, callbacks = [.handleError handler err context failure] := by
  constructor
  · intro hb
    cases hb with
    | failed hfound herror =>
        cases h with
        | failed _ hh _ _ context failure hc =>
            rw [hh] at hfound
            cases hfound
            exact ⟨context, failure, hc⟩
        | unresolved hh => rw [hh] at hfound; cases hfound
        | rejected _ _ he => rw [he] at herror; cases herror
        | empty _ _ he => rw [he] at herror; cases herror
        | notUnderstood _ _ he => rw [he] at herror; cases herror
        | delivered _ _ he => rw [he] at herror; cases herror
    | rejected hfound hactive e₀ violation₀ hp₀ =>
        cases h with
        | rejected _ hh _ e' violation hp context failure hc =>
            rw [hp] at hp₀
            cases hp₀
            rw [hh] at hfound
            cases hfound
            exact ⟨context, failure, hc⟩
        | unresolved hh => rw [hh] at hfound; cases hfound
        | failed _ _ he => rw [he] at hactive; cases hactive
        | empty _ _ _ _ hp => rw [hp] at hp₀; cases hp₀
        | notUnderstood _ _ _ _ hp => rw [hp] at hp₀; cases hp₀
        | delivered _ _ _ _ hp => rw [hp] at hp₀; cases hp₀
  · rintro ⟨context₀, failure₀, hc₀⟩
    -- no other course tells a failure
    cases h with
    | failed _ hh he _ _ _ hc =>
        rw [hc] at hc₀
        cases hc₀
        exact .failed hh he
    | rejected _ hh he e' violation hp _ _ hc =>
        rw [hc] at hc₀
        cases hc₀
        exact .rejected hh he e' violation hp
    | unresolved _ _ hc => rw [hc] at hc₀; cases hc₀
    | empty _ _ _ _ _ _ hc => rw [hc] at hc₀; cases hc₀
    | notUnderstood _ _ _ _ _ _ _ _ _ hc => rw [hc] at hc₀; cases hc₀
    | delivered _ _ _ _ _ _ _ _ _ _ _ hc => rw [hc] at hc₀; cases hc₀

/-- A participant is told one thing at most. -/
theorem RequestCourse.length_le (h : RequestCourse env c e bus supply policies callbacks) :
    callbacks.length ≤ 1 := by
  cases h with
  | unresolved _ _ hc => simp [hc]
  | failed _ _ _ _ _ _ hc => simp [hc]
  | rejected _ _ _ _ _ _ _ _ hc => simp [hc]
  | empty _ _ _ _ _ _ hc => simp [hc]
  | notUnderstood _ _ _ _ _ _ _ _ _ hc => simp [hc]
  | delivered _ _ _ _ _ _ _ _ _ _ _ hc => simp [hc]

/-- A message that the participant is told is in the input slot as the policy has left it. -/
theorem RequestCourse.message_of_mem (h : RequestCourse env c e bus supply policies callbacks)
    {incoming : Incoming} {failure : Option HandlerError}
    (hmem : .handleMessage handler incoming failure ∈ callbacks) :
    ∃ e', policies = [.policy e .receiver .request ⟨e', none⟩] ∧
      e'.input = some incoming.message := by
  have hone : callbacks = [.handleMessage handler incoming failure] := by
    obtain ⟨call, hcall⟩ := List.length_eq_one_iff.mp
      (Nat.le_antisymm h.length_le (List.length_pos_of_mem hmem))
    rw [hcall, List.mem_singleton] at hmem
    rw [hcall, hmem]
  exact ((h.delivers_iff handler incoming.message).mpr ⟨incoming, failure, rfl, hone⟩).accepted

/-- The policy is not asked about a request that is marked as failed. -/
theorem RequestCourse.policies_of_isError
    (h : RequestCourse env c e bus supply policies callbacks) (he : e.isError = true) :
    policies = [] := by
  cases h with
  | unresolved _ hp => exact hp
  | failed _ _ _ hp => exact hp
  | rejected _ _ hactive => rw [hactive] at he; cases he
  | empty _ _ hactive => rw [hactive] at he; cases he
  | notUnderstood _ _ hactive => rw [hactive] at he; cases he
  | delivered _ _ hactive => rw [hactive] at he; cases he

end Told

section Execution

variable (h : c.ready = .ok (.receiver, .request, e))

include h

/-- About a request that somebody takes and that is not marked as failed, the policy is asked
once, on the leg of a receiver's request. -/
theorem policies_of_active {handler : HandlerName}
    (hh : c.participant? .receiver e bus = some handler) (he : e.isError = false) :
    ∃ s, callsOf [.policy] (c.execute env bus supply).trace =
      [.policy e .receiver .request
        (env.parties.enforce e .receiver e.context.agreedPolicy .request s).1] := by
  have hparticipant := opening_participant? c .receiver .request e bus supply
  have hl := received bus supply hh
  have hasked := hl.policies_of_active env he c.variant
  rw [rulingOnArrival_eq, hl.exchange, hl.role, hl.scope] at hasked
  rw [callsOf_execute env h bus supply (by decide) (by decide),
    work_request_of_some env (hparticipant.trans hh), ← reception]
  exact ⟨_, hasked⟩

/-- What a participant is told of a request, exactly. A handler is called with a message if and
only if the request is to be delivered to it as this message, and with a failure if and only if
the request bounces with this failure; each is one call, and there is no other beside it. The
policy is asked once about a request that somebody takes, and never about one that is marked as
failed. -/
theorem request_told_exactly (bus : Bus σ) (supply : Supply) :
    let trace := (c.execute env bus supply).trace
    let policies := callsOf [.policy] trace
    let callbacks := callsOf callbackKinds trace
    (∀ handler message, Delivers env c e bus supply policies handler message ↔
      ∃ incoming failure, incoming.message = message ∧
        callbacks = [.handleMessage handler incoming failure]) ∧
    (∀ handler err, Bounces c e bus policies handler err ↔
      ∃ context failure, callbacks = [.handleError handler err context failure]) ∧
    callbacks.length ≤ 1 ∧
    (e.isError = true → policies = []) ∧
    (∀ handler, c.participant? .receiver e bus = some handler → e.isError = false →
      ∃ s, policies = [.policy e .receiver .request
        (env.parties.enforce e .receiver e.context.agreedPolicy .request s).1]) := by
  intro trace policies callbacks
  have hcourse := execute_request_course env bus supply h
  refine ⟨hcourse.delivers_iff, hcourse.bounces_iff, hcourse.length_le,
    hcourse.policies_of_isError, ?_⟩
  exact fun handler hh he => policies_of_active env bus supply h hh he

end Execution

section Books

open Rehearsal

/-- An order of a signed book. -/
def signedBook : Message := Message.withRequired { body := "book" } "signature" "by hand"

/-- The bookstore that reads signatures takes the order. -/
theorem request_told_exactly_signed :
    let env := environment (Dict.empty.insert "stock" { understood := ["signature"] }) .permissive
    let c : Command :=
      { variant := .requestResponse false, role := some .receiver, scope := some .request
        exchange := some { bareOrder with input := some signedBook }, handler := some "stock" }
    let x := c.execute env { parties := {} } .counting
    ∃ incoming failure, incoming.message = signedBook ∧
      callsOf callbackKinds x.trace = [.handleMessage "stock" incoming failure] := by
  intro env c x
  have hpolicy : callsOf [.policy] x.trace =
      [.policy { bareOrder with input := some signedBook } .receiver .request
        ⟨{ bareOrder with input := some signedBook }, none⟩] := rfl
  refine ((request_told_exactly env rfl { parties := {} } .counting).1 "stock" signedBook).mp ?_
  exact ⟨rfl, rfl, ⟨_, hpolicy, rfl⟩, by decide⟩

end Books

end ServiceBus.Command
