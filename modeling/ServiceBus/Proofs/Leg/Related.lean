import ServiceBus.Proofs.Leg.IncomingRequest

set_option autoImplicit false

/-! # Work that keeps legs related

Two legs may be related in some way (`Rel`), such as to differ in a detail that nobody looks at.
Work on the one and work on the other are related (`Work.Related`) if they come to the same result
and leave the legs related. All work on legs is put together from a few steps; when these keep
legs related (`Environment.Matched`), so does everything else (`related_incomingRequest` and its
like), whatever the relation is. -/

namespace ServiceBus

variable {σ σ' α β : Type}

namespace Work

variable {Rel : Leg σ → Leg σ' → Prop}

variable (Rel) in
/-- On related legs, the two pieces of work have the same result and leave the legs related. -/
def Related (x : Work σ α) (x' : Work σ' α) : Prop :=
  ∀ l l', Rel l l' → (x l).1 = (x' l').1 ∧ Rel (x l).2 (x' l').2

namespace Related

theorem pure (a : α) : Related Rel (Pure.pure a : Work σ α) (Pure.pure a) :=
  fun _ _ hl => ⟨rfl, hl⟩

theorem fail (e : BusError) : Related Rel (Work.fail e : Work σ α) (Work.fail e) :=
  fun _ _ hl => ⟨rfl, hl⟩

theorem check (e : Option BusError) : Related Rel (Work.check e : Work σ Unit) (Work.check e) := by
  cases e with
  | none => exact pure ()
  | some e => exact fail e

theorem bind {x : Work σ α} {x' : Work σ' α} {f : α → Work σ β} {f' : α → Work σ' β}
    (hx : Related Rel x x') (hf : ∀ a, Related Rel (f a) (f' a)) :
    Related Rel (x >>= f) (x' >>= f') := by
  intro l l' hl
  obtain ⟨hresult, hm⟩ := hx l l' hl
  cases h : (x l).1 with
  | error e =>
      rw [bind_of_error h, bind_of_error (hresult.symm.trans h)]
      exact ⟨rfl, hm⟩
  | ok a =>
      rw [bind_of_ok h, bind_of_ok (hresult.symm.trans h)]
      exact hf a _ _ hm

theorem attempt {x : Work σ α} {x' : Work σ' α} (hx : Related Rel x x') :
    Related Rel (Work.attempt x) (Work.attempt x') := by
  intro l l' hl
  obtain ⟨hresult, hm⟩ := hx l l' hl
  exact ⟨congrArg Except.ok hresult, hm⟩

/-- What follows a look at the leg has to be related on related legs. -/
theorem bind_leg {f : Leg σ → Work σ α} {f' : Leg σ' → Work σ' α}
    (hf : ∀ m m', Rel m m' → Related Rel (f m) (f' m')) :
    Related Rel (Work.leg >>= f) (Work.leg >>= f') :=
  fun l l' hl => hf l l' hl l l' hl

end Related

end Work

open Work

/-- On related legs, the steps that all work is made of are related. -/
structure Environment.Matched (Rel : Leg σ → Leg σ' → Prop) (env : Environment σ)
    (env' : Environment σ') : Prop where
  scope {l : Leg σ} {l' : Leg σ'} (h : Rel l l') : l'.scope = l.scope
  closed {l : Leg σ} {l' : Leg σ'} (h : Rel l l') : l'.closed = l.closed
  exchange {l : Leg σ} {l' : Leg σ'} (h : Rel l l') : l'.exchange = l.exchange
  /-- Messages reach the participants of related legs as the same. -/
  incoming {l : Leg σ} {l' : Leg σ'} (h : Rel l l') (message : Message) :
    l'.incoming message = l.incoming message
  understood {l : Leg σ} {l' : Leg σ'} (h : Rel l l') (handler : HandlerName) :
    env'.parties.understood handler l'.bus.parties = env.parties.understood handler l.bus.parties
  /-- The clock may tell different times. -/
  now {l : Leg σ} {l' : Leg σ'} (h : Rel l l') : Rel (Work.now l).2 (Work.now l').2
  notifyOf (kind : NotificationKind) (state : LifecycleState) (reason : Option String) :
    Related Rel (notifyOf env kind state reason) (notifyOf env' kind state reason)
  applyPolicy : Related Rel (applyPolicy env) (applyPolicy env')
  acknowledge : Related Rel (acknowledge env) (acknowledge env')
  refuse (cause : BusError) : Related Rel (refuse env cause) (refuse env' cause)
  recordFailure (e : BusError) : Related Rel (recordFailure e) (recordFailure e)
  resolveHandler : Related Rel resolveHandler resolveHandler
  handleMessage (handler : HandlerName) (incoming : Incoming) :
    Related Rel
      (ask (env.parties.handleMessage handler incoming) (.handleMessage handler incoming))
      (ask (env'.parties.handleMessage handler incoming) (.handleMessage handler incoming))
  handleError (handler : HandlerName) (e : BusError) (context : CallContext) :
    Related Rel
      (ask (env.parties.handleError handler e context) (.handleError handler e context))
      (ask (env'.parties.handleError handler e context) (.handleError handler e context))
  send : Related Rel (send env) (send env')
  sendSync : Related Rel (sendSync env) (sendSync env')
  sendFault (cause : BusError) : Related Rel (sendFault env cause) (sendFault env' cause)
  persist : Related Rel persist persist
  release : Related Rel release release
  /-- A synchronous round trip moves on to the response. -/
  respond : Related Rel (change fun l => { l with scope := .response })
    (change fun l => { l with scope := .response })

namespace Work

variable {Rel : Leg σ → Leg σ' → Prop} {env : Environment σ} {env' : Environment σ'}
  (h : env.Matched Rel env')

include h

/-! ## Steps -/

theorem related_notify (state : LifecycleState) :
    Related Rel (notify env state) (notify env' state) :=
  h.notifyOf _ _ _

theorem related_notifyFailure (e : BusError) :
    Related Rel (notifyFailure env e) (notifyFailure env' e) :=
  h.notifyOf _ _ _

/-- What follows a look at the exchange has to be related. -/
theorem related_bind_exchange {f : Exchange → Work σ α} {f' : Exchange → Work σ' α}
    (hf : ∀ e, Related Rel (f e) (f' e)) :
    Related Rel (Work.exchange >>= f) (Work.exchange >>= f') := by
  intro l l' hl
  rw [bind_exchange, bind_exchange, h.exchange hl]
  exact hf _ l l' hl

theorem related_requireHandler :
    Related Rel (requireHandler : Work σ HandlerName) requireHandler := by
  unfold requireHandler
  refine h.resolveHandler.bind fun found => ?_
  cases found with
  | some handler => exact .pure handler
  | none => exact related_bind_exchange h fun e => .fail _

theorem related_inboundMessage :
    Related Rel (inboundMessage : Work σ Message) inboundMessage := by
  unfold inboundMessage
  refine .bind_leg fun m m' hm => ?_
  rw [h.exchange hm, h.scope hm]
  cases m.exchange.inbound m.scope with
  | some message => exact .pure message
  | none => exact .fail _

theorem related_handOver (handler : HandlerName) (incoming : Incoming) :
    Related Rel (handOver env handler incoming) (handOver env' handler incoming) := by
  unfold handOver
  refine (related_notify h .appIn).bind fun _ => ?_
  exact (h.handleMessage handler incoming).bind fun failure => .check _

theorem related_deliverMessage (message : Message) :
    Related Rel (deliverMessage env message) (deliverMessage env' message) := by
  unfold deliverMessage
  refine (related_requireHandler h).bind fun handler => .bind_leg fun m m' hm => ?_
  rw [h.understood hm, h.exchange hm, h.incoming hm]
  cases message.notUnderstood? (env.parties.understood handler m.bus.parties) with
  | some header => exact .fail _
  | none => exact related_handOver h handler _

theorem related_deliverError (e : BusError) :
    Related Rel (deliverError env e) (deliverError env' e) := by
  unfold deliverError
  refine (related_requireHandler h).bind fun handler => .bind_leg fun m m' hm => ?_
  rw [h.exchange hm]
  exact (h.handleError handler e _).bind fun failure => .check _

theorem related_deliverErrorQuietly (e : BusError) :
    Related Rel (deliverErrorQuietly env e) (deliverErrorQuietly env' e) := by
  unfold deliverErrorQuietly
  refine (related_deliverError h e).attempt.bind fun delivered => ?_
  cases delivered with
  | ok _ => exact .pure ()
  | error secondary => exact h.notifyOf _ _ _

theorem related_ensureNotError : Related Rel (ensureNotError : Work σ Unit) ensureNotError := by
  unfold ensureNotError
  refine related_bind_exchange h fun e => ?_
  split
  · exact .fail _
  · exact .pure ()

/-! ## Requests that come in -/

theorem related_turnAway (failure : BusError) :
    Related Rel (turnAway env failure) (turnAway env' failure) := by
  unfold turnAway
  refine (related_notifyFailure h failure).bind fun _ => ?_
  refine (related_deliverErrorQuietly h failure).bind fun _ => ?_
  exact h.acknowledge.bind fun _ => .fail failure

theorem related_deliverOrSendFault :
    Related Rel (deliverOrSendFault env) (deliverOrSendFault env') := by
  unfold deliverOrSendFault
  refine (related_inboundMessage h).bind fun message => ?_
  refine (related_deliverMessage h message).attempt.bind fun taken => ?_
  cases taken with
  | ok _ => exact related_notify h .finished
  | error failure =>
      refine (h.sendFault failure).attempt.bind fun _ => ?_
      exact (related_notifyFailure h failure).bind fun _ => .fail failure

theorem related_arrive (variant : Variant) :
    Related Rel (arrive env variant) (arrive env' variant) := by
  cases variant with
  | oneWay => exact related_notify h .netInPost
  | callback => exact related_notify h .netInPost
  | requestResponse sync => exact h.persist.bind fun _ => related_notify h .netInPost

theorem related_rejectRequest (violation : BusError) (variant : Variant) :
    Related Rel (rejectRequest env violation variant) (rejectRequest env' violation variant) := by
  cases variant with
  | oneWay => exact related_turnAway h violation
  | callback => exact related_turnAway h violation
  | requestResponse sync =>
      refine (related_notifyFailure h violation).bind fun _ => ?_
      refine (related_deliverError h violation).attempt.bind fun told => ?_
      refine h.release.bind fun _ => ?_
      exact (h.refuse _).bind fun _ => .fail violation

theorem related_acceptRequest (variant : Variant) :
    Related Rel (acceptRequest env variant) (acceptRequest env' variant) := by
  cases variant with
  | oneWay =>
      refine (related_inboundMessage h).bind fun message => h.acknowledge.bind fun _ => ?_
      exact (related_deliverMessage h message).bind fun _ => related_notify h .finished
  | callback => exact h.acknowledge.bind fun _ => related_deliverOrSendFault h
  | requestResponse sync =>
      refine (related_inboundMessage h).bind fun message => ?_
      refine (related_deliverMessage h message).attempt.bind fun taken => ?_
      cases taken with
      | error failure => exact h.release.bind fun _ => .fail failure
      | ok _ => exact h.acknowledge.bind fun _ => related_notify h .finished

theorem related_incomingRequest (variant : Variant) :
    Related Rel (incomingRequest env variant) (incomingRequest env' variant) := by
  rw [incomingRequest_eq, incomingRequest_eq]
  refine related_bind_exchange h fun e => ?_
  split
  · exact related_bind_exchange h fun e => related_turnAway h _
  · refine (related_arrive h variant).bind fun _ => h.applyPolicy.attempt.bind fun judged => ?_
    cases judged with
    | error violation => exact related_rejectRequest h violation variant
    | ok _ => exact related_acceptRequest h variant

/-! ## Responses that come in -/

theorem related_openAnswer {failed : BusError → Work σ Unit} {failed' : BusError → Work σ' Unit}
    {brought : Message → Work σ Unit} {brought' : Message → Work σ' Unit}
    (hf : ∀ e, Related Rel (failed e) (failed' e))
    (hb : ∀ m, Related Rel (brought m) (brought' m)) :
    Related Rel (openAnswer failed brought) (openAnswer failed' brought') := by
  unfold openAnswer
  refine related_bind_exchange h fun e => ?_
  split
  · exact related_bind_exchange h fun e => hf _
  · exact (related_inboundMessage h).bind hb

theorem related_takeFailure (failure : BusError) :
    Related Rel (takeFailure env failure) (takeFailure env' failure) := by
  unfold takeFailure
  refine (related_notifyFailure h failure).bind fun _ => h.acknowledge.bind fun _ => ?_
  exact (related_deliverErrorQuietly h failure).bind fun _ => h.recordFailure failure

theorem related_takeAnswer (message : Message) :
    Related Rel (takeAnswer env message) (takeAnswer env' message) := by
  unfold takeAnswer
  refine (related_notify h .netInPost).bind fun _ => h.acknowledge.bind fun _ => ?_
  cases BusError.ofFault? message.body with
  | some remote =>
      refine (related_deliverError h remote).bind fun _ => ?_
      refine (h.recordFailure remote).bind fun _ => ?_
      exact related_notify h .finished
  | none => exact (related_deliverMessage h message).bind fun _ => related_notify h .finished

theorem related_failResponse (sync : Bool) (failure : BusError) :
    Related Rel (failResponse env sync failure) (failResponse env' sync failure) := by
  unfold failResponse
  refine (related_notifyFailure h failure).bind fun _ => ?_
  cases sync with
  | true => exact h.acknowledge.bind fun _ => .fail failure
  | false =>
      refine (related_deliverErrorQuietly h failure).bind fun _ => ?_
      exact h.acknowledge.bind fun _ => h.recordFailure failure

theorem related_deliverFailure (e : BusError) :
    Related Rel (deliverFailure env e) (deliverFailure env' e) := by
  unfold deliverFailure
  refine (related_deliverError h e).attempt.bind fun delivered => ?_
  exact (h.recordFailure e).bind fun _ => .pure delivered

theorem related_deliverResponse (remote : Option BusError) (message : Message) :
    Related Rel (deliverResponse env remote message) (deliverResponse env' remote message) := by
  unfold deliverResponse
  cases remote with
  | some e => exact related_deliverFailure h e
  | none =>
      refine related_bind_exchange h fun e => ?_
      split
      · exact related_deliverFailure h _
      · exact (related_deliverMessage h message).attempt

theorem related_concludeResponse (sync : Bool) (remote : Option BusError) (message : Message) :
    Related Rel (concludeResponse env sync remote message)
      (concludeResponse env' sync remote message) := by
  unfold concludeResponse
  cases sync with
  | true =>
      refine h.acknowledge.bind fun _ => ?_
      cases remote with
      | some e => exact (related_notifyFailure h e).bind fun _ => h.recordFailure e
      | none => exact related_notify h .finished
  | false =>
      refine (related_deliverResponse h remote message).bind fun delivered => ?_
      refine h.acknowledge.bind fun _ => ?_
      cases delivered with
      | error e => exact .fail e
      | ok _ => exact related_notify h .finished

theorem related_takeMessage (sync : Bool) (message : Message) :
    Related Rel (takeMessage env sync message) (takeMessage env' sync message) := by
  unfold takeMessage
  cases BusError.ofFault? message.body with
  | some remote => exact related_concludeResponse h sync (some remote) message
  | none =>
      refine h.applyPolicy.attempt.bind fun judged => ?_
      cases judged with
      | error violation => exact related_failResponse h sync violation
      | ok _ => exact related_concludeResponse h sync none message

theorem related_takeResponse (sync : Bool) :
    Related Rel (takeResponse env sync) (takeResponse env' sync) := by
  have hgo : Related Rel (letGo sync : Work σ Unit) (letGo sync) := by
    cases sync with
    | true => exact .pure ()
    | false => exact h.release
  refine hgo.bind fun _ => ?_
  exact related_openAnswer h (related_failResponse h sync) (related_takeMessage h sync)

theorem related_incomingResponse (variant : Variant) :
    Related Rel (incomingResponse env variant) (incomingResponse env' variant) := by
  have hfault : Related Rel (takeFault env) (takeFault env') :=
    related_openAnswer h (related_takeFailure h) (related_takeAnswer h)
  cases variant with
  | oneWay => exact hfault
  | callback => exact hfault
  | requestResponse sync => exact related_takeResponse h sync

/-! ## What leaves -/

theorem related_sendOneWay : Related Rel (sendOneWay env) (sendOneWay env') := by
  unfold sendOneWay
  refine h.applyPolicy.bind fun _ => ?_
  refine (h.sendSync.bind fun _ => related_ensureNotError h).attempt.bind fun sent => ?_
  cases sent with
  | ok _ => exact (related_notify h .netOutPost).bind fun _ => related_notify h .finished
  | error e =>
      refine (related_notifyFailure h e).bind fun _ => (related_notify h .finished).bind fun _ => ?_
      exact .fail e

theorem related_sendRequest : Related Rel (sendRequest env) (sendRequest env') := by
  unfold sendRequest
  refine h.applyPolicy.bind fun _ => h.persist.bind fun _ => ?_
  refine h.send.attempt.bind fun sent => ?_
  cases sent with
  | error e => exact h.release.bind fun _ => .fail e
  | ok _ => exact (related_notify h .netOutPost).bind fun _ => related_notify h .finished

theorem related_callAndWait : Related Rel (callAndWait env) (callAndWait env') := by
  unfold callAndWait
  refine h.applyPolicy.bind fun _ => h.sendSync.bind fun _ => ?_
  refine (related_notify h .netOutPost).bind fun _ => ?_
  exact h.respond.bind fun _ =>
    related_takeResponse h true

theorem related_outgoingRequest (variant : Variant) :
    Related Rel (outgoingRequest env variant) (outgoingRequest env' variant) := by
  cases variant with
  | oneWay => exact related_sendOneWay h
  | callback => exact related_sendOneWay h
  | requestResponse sync =>
      cases sync with
      | false => exact related_sendRequest h
      | true => exact related_callAndWait h

theorem related_sendResponse : Related Rel (sendResponse env) (sendResponse env') := by
  have hrest : Related Rel (do
      sendSync env
      ensureNotError
      notify env .netOutPost
      notify env .finished) (do
      sendSync env'
      ensureNotError
      notify env' .netOutPost
      notify env' .finished) := by
    refine h.sendSync.bind fun _ => (related_ensureNotError h).bind fun _ => ?_
    exact (related_notify h .netOutPost).bind fun _ => related_notify h .finished
  unfold sendResponse
  refine related_bind_exchange h fun e => ?_
  split
  · exact hrest
  · exact h.applyPolicy.bind fun _ => hrest

theorem related_outgoingResponse (variant : Variant) :
    Related Rel (outgoingResponse env variant) (outgoingResponse env' variant) := by
  cases variant with
  | oneWay => exact related_sendResponse h
  | callback => exact related_sendResponse h
  | requestResponse sync => exact h.release.bind fun _ => related_sendResponse h

end Work

end ServiceBus
