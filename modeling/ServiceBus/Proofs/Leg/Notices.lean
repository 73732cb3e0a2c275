import ServiceBus.Proofs.Leg.Beats
import ServiceBus.Proofs.Leg.Outgoing

set_option autoImplicit false

/-! # What each leg tells monitoring

`Work.Reports` says of a piece of work that it first opens the leg with some beats and then closes
it, and that nothing closes it but the notification that it has finished if the work succeeds
without recording a failure. It is shown for a sequence from its parts, and of every leg
(`reports_incomingRequest` and its like). -/

namespace ServiceBus.Work

variable {σ α β : Type} (env : Environment σ) {beats : List Beat}

/-! ## Work as a run of beats -/

/-- Work that neither notifies nor hands a message over is a run of quiet beats. -/
theorem Does.pulses {acts : List Act} {x : Work σ α} (h : Does acts x)
    (hacts : ∀ act ∈ acts, act ∉ noticedActs) (hbeats : .quiet ∈ beats) :
    Runs (Leg.Pulse env) beats x := by
  intro l
  refine Relation.ReflTransGen.mono (fun m m' hs => ?_) _ _ (h l)
  obtain ⟨act, hact, hs⟩ := hs
  exact ⟨.quiet, hbeats, .quiet hs (hacts act hact)⟩

theorem pulses_notifyFailure (e : BusError) :
    Runs (Leg.Pulse env) closingBeats (notifyFailure env e) :=
  fun l => .single (.aborted l _ _ e.isAborted_lifecycleState) (by decide)

theorem pulses_finished : Runs (Leg.Pulse env) closingBeats (notify env .finished) :=
  fun l => .single (.finished l) (by decide)

theorem pulses_received (h : .received ∈ beats) :
    Runs (Leg.Pulse env) beats (notify env .netInPost) :=
  fun l => .single (.received l) h

theorem pulses_deliverErrorQuietly (e : BusError) :
    Runs (Leg.Pulse env) closingBeats (deliverErrorQuietly env e) := by
  unfold deliverErrorQuietly
  refine ((does_deliverError env e).pulses env (by decide) (by decide)).attempt.bind fun r => ?_
  cases r with
  | ok _ => exact .pure ()
  | error secondary => exact fun l => .single (.aborted l _ _ rfl) (by decide)

theorem pulses_handOver (h : .delivered ∈ beats) (handler : HandlerName) (incoming : Incoming) :
    Runs (Leg.Pulse env) beats (handOver env handler incoming) := by
  intro l
  let m := (notify env .appIn l).2
  let answer := env.parties.handleMessage handler incoming m.bus.parties
  have hx : handOver env handler incoming l =
      check (answer.1.map (BusError.ofHandler incoming.operation))
        (m.called (.handleMessage handler incoming answer.1) answer.2) := rfl
  rw [hx, check_ofHandler]
  exact .single (.delivered l _ _ rfl) h

/-- A message is handed over with the notification that it comes in, or not at all. -/
theorem pulses_deliverMessage (hq : .quiet ∈ beats) (h : .delivered ∈ beats) (message : Message) :
    Runs (Leg.Pulse env) beats (deliverMessage env message) := by
  unfold deliverMessage
  refine (does_requireHandler.pulses env (by decide) hq).bind fun handler => ?_
  refine Runs.leg.bind fun l => ?_
  split
  · exact .fail _
  · exact pulses_handOver env h handler _

/-! ## Work that reports how it ends -/

/-- The work does not succeed without a failure on record. -/
def Fruitless (x : Work σ Unit) : Prop := ∀ l, (x l).1 = .ok () → (x l).2.failure ≠ none

namespace Fruitless

theorem fail (e : BusError) : Fruitless (Work.fail e : Work σ Unit) := by
  intro l h
  cases h

theorem record (e : BusError) : Fruitless (recordFailure e : Work σ Unit) :=
  fun _ _ => Option.some_ne_none e

theorem bind_right {x : Work σ α} {f : α → Work σ Unit} (hf : ∀ a, Fruitless (f a)) :
    Fruitless (x >>= f) := by
  intro l h
  cases hx : (x l).1 with
  | error e =>
      rw [bind_of_error hx] at h
      cases h
  | ok a =>
      rw [bind_of_ok hx] at h ⊢
      exact hf a _ h

/-- What follows records nothing else. -/
theorem bind_left {acts : List Act} {x : Work σ Unit} {f : Unit → Work σ Unit} (hx : Fruitless x)
    (hf : ∀ a, Does acts (f a)) (hacts : .record ∉ acts) : Fruitless (x >>= f) := by
  intro l h
  cases hr : (x l).1 with
  | error e =>
      rw [bind_of_error hr] at h
      cases h
  | ok a =>
      rw [bind_of_ok hr, (hf a _).failure hacts]
      exact hx l hr

end Fruitless

/-- On every leg, the work opens it with beats from a list and then closes it. Only the
notification that the leg has finished closes it if the work succeeds and no failure is
recorded. -/
def Reports (beats : List Beat) (x : Work σ Unit) : Prop :=
  ∀ l, ∃ m, Run (Leg.Pulse env) beats l m ∧ Run (Leg.Pulse env) closingBeats m (x l).2 ∧
    ((x l).1 = .ok () → (x l).2.failure = none → (x l).2 = (notify env .finished m).2)

namespace Reports

variable {env}

theorem finished : Reports env beats (notify env .finished) :=
  fun l => ⟨l, .refl l, pulses_finished env l, fun _ _ => rfl⟩

theorem closing {x : Work σ Unit} (hx : Runs (Leg.Pulse env) closingBeats x) (hf : Fruitless x) :
    Reports env beats x :=
  fun l => ⟨l, .refl l, hx l, fun hok hnone => absurd hnone (hf l hok)⟩

theorem fail (e : BusError) : Reports env beats (Work.fail e : Work σ Unit) :=
  closing (.fail e) (.fail e)

/-- What comes first opens the leg. -/
theorem after {x : Work σ α} {f : α → Work σ Unit} (hx : Runs (Leg.Pulse env) beats x)
    (hf : ∀ a, Reports env beats (f a)) : Reports env beats (x >>= f) := by
  intro l
  cases hr : (x l).1 with
  | error e =>
      rw [bind_of_error hr]
      refine ⟨(x l).2, hx l, .refl _, ?_⟩
      intro h
      cases h
  | ok a =>
      rw [bind_of_ok hr]
      obtain ⟨m, hopen, hclose, hend⟩ := hf a (x l).2
      exact ⟨m, (hx l).trans hopen, hclose, hend⟩

end Reports

/-! ## Responses that come in -/

theorem reports_takeFailure (failure : BusError) : Reports env beats (takeFailure env failure) := by
  unfold takeFailure
  refine .closing ?_ (.bind_right fun _ => .bind_right fun _ => .bind_right fun _ =>
    .record failure)
  refine (pulses_notifyFailure env failure).bind fun _ => ?_
  refine ((does_acknowledge env).pulses env (by decide) (by decide)).bind fun _ => ?_
  refine (pulses_deliverErrorQuietly env failure).bind fun _ => ?_
  exact (does_recordFailure failure).pulses env (by decide) (by decide)

theorem reports_takeAnswer (message : Message) :
    Reports env incomingBeats (takeAnswer env message) := by
  unfold takeAnswer
  refine .after (pulses_received env (by decide)) fun _ => ?_
  refine .after ((does_acknowledge env).pulses env (by decide) (by decide)) fun _ => ?_
  cases BusError.ofFault? message.body with
  | some remote =>
      refine .after ((does_deliverError env remote).pulses env (by decide) (by decide)) fun _ => ?_
      -- the leg has finished, but with a failure on record
      have hrecorded : Fruitless (recordFailure remote >>= fun _ => notify env .finished) :=
        (Fruitless.record remote).bind_left (fun _ => does_notify env .finished) (by decide)
      refine .closing ?_ hrecorded
      exact ((does_recordFailure remote).pulses env (by decide) (by decide)).bind
        fun _ => pulses_finished env
  | none =>
      exact .after (pulses_deliverMessage env (by decide) (by decide) message) fun _ => .finished

theorem reports_openAnswer (hq : .quiet ∈ beats) {failed : BusError → Work σ Unit}
    {brought : Message → Work σ Unit} (hf : ∀ e, Reports env beats (failed e))
    (hb : ∀ message, Reports env beats (brought message)) :
    Reports env beats (openAnswer failed brought) := by
  unfold openAnswer
  refine .after .exchange fun e => ?_
  split
  · exact .after .exchange fun e => hf _
  · exact .after (does_inboundMessage.pulses env (by simp) hq) hb

theorem reports_failResponse (sync : Bool) (failure : BusError) :
    Reports env beats (failResponse env sync failure) := by
  have hack : Runs (Leg.Pulse env) closingBeats (acknowledge env) :=
    (does_acknowledge env).pulses env (by decide) (by decide)
  unfold failResponse
  cases sync with
  | true =>
      refine .closing ?_ (.bind_right fun _ => .bind_right fun _ => .fail failure)
      exact (pulses_notifyFailure env failure).bind fun _ => hack.bind fun _ => .fail failure
  | false =>
      refine .closing ?_ (.bind_right fun _ => .bind_right fun _ => .bind_right fun _ =>
        .record failure)
      refine (pulses_notifyFailure env failure).bind fun _ => ?_
      refine (pulses_deliverErrorQuietly env failure).bind fun _ => hack.bind fun _ => ?_
      exact (does_recordFailure failure).pulses env (by decide) (by decide)

section Response

variable {sync : Bool} (hq : .quiet ∈ beats) (hd : sync = false → .delivered ∈ beats)

include hq

theorem pulses_deliverResponse (hd : .delivered ∈ beats) (remote : Option BusError)
    (message : Message) : Runs (Leg.Pulse env) beats (deliverResponse env remote message) := by
  have hfailure : ∀ e, Runs (Leg.Pulse env) beats (deliverFailure env e) :=
    fun e => (does_deliverFailure env e).pulses env (by decide) hq
  unfold deliverResponse
  cases remote with
  | some e => exact hfailure e
  | none =>
      refine Runs.exchange.bind fun e => ?_
      split
      · exact hfailure _
      · exact (pulses_deliverMessage env hq hd message).attempt

include hd

theorem reports_concludeResponse (remote : Option BusError) (message : Message) :
    Reports env beats (concludeResponse env sync remote message) := by
  have hack : Runs (Leg.Pulse env) beats (acknowledge env) :=
    (does_acknowledge env).pulses env (by decide) hq
  unfold concludeResponse
  cases sync with
  | true =>
      refine .after hack fun _ => ?_
      cases remote with
      | none => exact .finished
      | some e =>
          refine .closing ?_ (.bind_right fun _ => .record e)
          refine (pulses_notifyFailure env e).bind fun _ => ?_
          exact (does_recordFailure e).pulses env (by decide) (by decide)
  | false =>
      refine .after (pulses_deliverResponse env hq (hd rfl) remote message) fun delivered => ?_
      refine .after hack fun _ => ?_
      cases delivered with
      | error e => exact .fail e
      | ok _ => exact .finished

theorem reports_takeResponse : Reports env beats (takeResponse env sync) := by
  refine .after ((does_letGo sync).pulses env (by decide) hq) fun _ => ?_
  refine reports_openAnswer env hq (reports_failResponse env sync) fun message => ?_
  unfold takeMessage
  cases BusError.ofFault? message.body with
  | some remote => exact reports_concludeResponse env hq hd (some remote) message
  | none =>
      refine .after ((does_applyPolicy env).pulses env (by decide) hq).attempt fun judged => ?_
      cases judged with
      | error violation => exact reports_failResponse env sync violation
      | ok _ => exact reports_concludeResponse env hq hd none message

end Response

theorem reports_incomingResponse (variant : Variant) :
    Reports env incomingBeats (incomingResponse env variant) := by
  have hfault : Reports env incomingBeats (takeFault env) :=
    reports_openAnswer env (by decide) (reports_takeFailure env) (reports_takeAnswer env)
  cases variant with
  | oneWay => exact hfault
  | callback => exact hfault
  | requestResponse sync => exact reports_takeResponse env (by decide) fun _ => by decide

/-! ## Requests that come in -/

theorem reports_turnAway (failure : BusError) : Reports env beats (turnAway env failure) := by
  unfold turnAway
  refine .closing ?_ (.bind_right fun _ => .bind_right fun _ => .bind_right fun _ => .fail failure)
  refine (pulses_notifyFailure env failure).bind fun _ => ?_
  refine (pulses_deliverErrorQuietly env failure).bind fun _ => ?_
  exact ((does_acknowledge env).pulses env (by decide) (by decide)).bind fun _ => .fail failure

/-- A fault is reported as sent if the transport has taken it. -/
theorem pulses_postFault {cause : BusError} {fault : Exchange} (hf : CarriesFault cause fault)
    (address : String) : Runs (Leg.Pulse env) incomingBeats (postFault env address fault) := by
  intro l
  let limit := env.settings.exchange.callTimeout
  let a := env.parties.sendSync fault limit l.bus.parties
  let m := l.called (.sendSync fault limit a.1) a.2
  have hasked : Run (Leg.Pulse env) incomingBeats l m :=
    (does_roundTrip env fault).pulses env (by decide) (by decide) l
  have hx : postFault env address fault l = (do
      check (a.1.failure? limit)
      if a.1.exchange.isError then
        Work.fail (.infrastructure
          ("Fault delivery to " ++ address ++ " failed: " ++ a.1.exchange.failureError.reason))
      else notifyOf env .fault .netOutPost none : Work σ Unit) m := rfl
  rw [hx]
  cases hok : a.1.failure? limit with
  | some e => exact hasked
  | none =>
      cases he : a.1.exchange.isError with
      | true => exact hasked
      | false => exact .single (.faultPosted l cause fault limit a.1 a.2 hf hok he) (by decide)

/-- A fault is dropped, or handed to the transport, before the leg is aborted. -/
theorem closes_sendFault (cause e : BusError) (l : Leg σ) :
    ∃ m, Run (Leg.Pulse env) incomingBeats l m ∧
      Run (Leg.Pulse env) closingBeats m (notifyFailure env e (sendFault env cause l).2).2 := by
  have hdrop : ∀ reason, ∃ m, Run (Leg.Pulse env) incomingBeats l m ∧
      Run (Leg.Pulse env) closingBeats m (notifyFailure env e (dropFault env reason l).2).2 :=
    fun reason => ⟨l, .refl l, .single (.dropped l reason e) (by decide)⟩
  unfold sendFault
  rw [bind_exchange]
  cases l.exchange.context.replyTo with
  | none => exact hdrop _
  | some replyTo =>
      dsimp only
      cases env.directory.faultOperation? replyTo.serviceId with
      | none => exact hdrop _
      | some operation =>
          obtain ⟨fault, hfault, hfor⟩ :=
            faultExchange_fst l.exchange replyTo operation cause l
          have hmade : Run (Leg.Pulse env) incomingBeats l
              (faultExchange l.exchange replyTo operation cause l).2 :=
            (does_faultExchange _ _ _ _).pulses env (by decide) (by decide) l
          dsimp only
          rw [bind_of_ok hfault]
          exact ⟨_, hmade.trans (pulses_postFault env hfor.carries _ _),
            pulses_notifyFailure env e _⟩

theorem reports_deliverOrSendFault : Reports env incomingBeats (deliverOrSendFault env) := by
  unfold deliverOrSendFault
  refine .after (does_inboundMessage.pulses env (by decide) (by decide)) fun message => ?_
  refine .after (pulses_deliverMessage env (by decide) (by decide) message).attempt fun taken => ?_
  cases taken with
  | ok _ => exact .finished
  | error failure =>
      intro l
      obtain ⟨m, hopen, hclose⟩ := closes_sendFault env failure failure l
      refine ⟨m, hopen, hclose, ?_⟩
      intro h
      cases h

theorem pulses_arrive (variant : Variant) :
    Runs (Leg.Pulse env) incomingBeats (arrive env variant) := by
  have hnotice : Runs (Leg.Pulse env) incomingBeats (notify env .netInPost) :=
    pulses_received env (by decide)
  cases variant with
  | oneWay => exact hnotice
  | callback => exact hnotice
  | requestResponse sync =>
      exact (does_persist.pulses env (by decide) (by decide)).bind fun _ => hnotice

/-- A request that the policy rejects. -/
theorem reports_rejectRequest (violation : BusError) (variant : Variant) :
    Reports env beats (rejectRequest env violation variant) := by
  cases variant with
  | oneWay => exact reports_turnAway env violation
  | callback => exact reports_turnAway env violation
  | requestResponse sync =>
      refine .closing ?_ (.bind_right fun _ => .bind_right fun _ => .bind_right fun _ =>
        .bind_right fun _ => .fail violation)
      refine (pulses_notifyFailure env violation).bind fun _ => ?_
      refine ((does_deliverError env violation).pulses env (by decide) (by decide)).attempt.bind
        fun told => ?_
      refine (does_release.pulses env (by decide) (by decide)).bind fun _ => ?_
      exact ((does_refuse env _).pulses env (by decide) (by decide)).bind fun _ => .fail violation

/-- A request that the policy accepts. -/
theorem reports_acceptRequest (variant : Variant) :
    Reports env incomingBeats (acceptRequest env variant) := by
  have hack : Runs (Leg.Pulse env) incomingBeats (acknowledge env) :=
    (does_acknowledge env).pulses env (by decide) (by decide)
  have hinbound : Runs (Leg.Pulse env) incomingBeats inboundMessage :=
    does_inboundMessage.pulses env (by decide) (by decide)
  have hdeliver : ∀ message, Runs (Leg.Pulse env) incomingBeats (deliverMessage env message) :=
    pulses_deliverMessage env (by decide) (by decide)
  cases variant with
  | oneWay =>
      refine .after hinbound fun message => .after hack fun _ => ?_
      exact .after (hdeliver message) fun _ => .finished
  | callback => exact .after hack fun _ => reports_deliverOrSendFault env
  | requestResponse sync =>
      refine .after hinbound fun message => .after (hdeliver message).attempt fun taken => ?_
      cases taken with
      | error failure =>
          exact .after (does_release.pulses env (by decide) (by decide)) fun _ => .fail failure
      | ok _ => exact .after hack fun _ => .finished

theorem reports_incomingRequest (variant : Variant) :
    Reports env incomingBeats (incomingRequest env variant) := by
  rw [incomingRequest_eq]
  refine .after .exchange fun e => ?_
  split
  · exact .after .exchange fun e => reports_turnAway env _
  · refine .after (pulses_arrive env variant) fun _ => ?_
    refine .after ((does_applyPolicy env).pulses env (by decide) (by decide)).attempt
      fun judged => ?_
    cases judged with
    | error violation => exact reports_rejectRequest env violation variant
    | ok _ => exact reports_acceptRequest env variant

/-! ## What leaves -/

/-- The work hands the exchange over: it notifies nothing, and when it succeeds, the transport has
just accepted the exchange. -/
structure Posts (x : Work σ Unit) : Prop where
  quiet : Runs (Leg.Pulse env) [.quiet] x
  posted (l : Leg σ) (h : (x l).1 = .ok ()) :
    Leg.Pulse env .posted l (notify env .netOutPost (x l).2).2

theorem posts_sendSync : Posts env (sendSync env) := by
  refine ⟨(does_sendSync env).pulses env (by decide) (by decide), fun l h => ?_⟩
  rw [sendSync_fst] at h
  rw [sendSync_snd]
  refine .posted l _ _ l.exchange _ ?_
  cases hf : (l.answer env).failure? env.settings.exchange.callTimeout with
  | none => simp [Call.accepted?, hf]
  | some e =>
      rw [hf] at h
      cases h

theorem posts_send : Posts env (send env) := by
  refine ⟨(does_send env).pulses env (by decide) (by decide), fun l h => ?_⟩
  obtain ⟨failure, s, hresult, hafter⟩ := send_eq env l
  rw [hresult] at h
  rw [hafter]
  cases failure with
  | none => exact .posted l (.send l.exchange none) s l.exchange l.exchange rfl
  | some e => cases h

/-- A look at the exchange afterwards may fail, and does nothing else. -/
theorem Posts.ensureNotError {x : Work σ Unit} (h : Posts env x) :
    Posts env (x >>= fun _ => ensureNotError) := by
  have hsame : ∀ m : Leg σ, (ServiceBus.Work.ensureNotError m).2 = m := by
    intro m
    unfold ServiceBus.Work.ensureNotError
    rw [bind_exchange]
    split <;> rfl
  refine ⟨h.quiet.bind fun _ => does_ensureNotError.pulses env (by decide) (by decide),
    fun l hok => ?_⟩
  cases hx : (x l).1 with
  | error e =>
      rw [bind_of_error hx] at hok
      cases hok
  | ok _ =>
      rw [bind_of_ok hx, hsame]
      exact h.posted l hx

/-- What has been handed over and accepted is reported as sent, before anything else. -/
theorem Posts.reports_of_ok {x f : Work σ Unit} (hx : Posts env x)
    (hf : Reports env outgoingBeats f) {l : Leg σ} (hr : (x l).1 = .ok ()) :
    let y := (notify env .netOutPost >>= fun _ => f) (x l).2
    ∃ m, Run (Leg.Pulse env) outgoingBeats l m ∧ Run (Leg.Pulse env) closingBeats m y.2 ∧
      (y.1 = .ok () → y.2.failure = none → y.2 = (notify env .finished m).2) := by
  obtain ⟨m, hopen, hclose, hend⟩ := hf (notify env .netOutPost (x l).2).2
  exact ⟨m, .trans (.single (hx.posted l hr) (by decide)) hopen, hclose, hend⟩

/-- What is handed over is reported as sent if it is accepted. -/
theorem Reports.posting {x f : Work σ Unit} {k : Except BusError Unit → Work σ Unit}
    (hx : Posts env x) (hk : k (.ok ()) = notify env .netOutPost >>= fun _ => f)
    (hf : Reports env outgoingBeats f) (hfailed : ∀ e, Reports env outgoingBeats (k (.error e))) :
    Reports env outgoingBeats (attempt x >>= k) := by
  intro l
  rw [bind_attempt]
  cases hr : (x l).1 with
  | error e =>
      have hquiet : Run (Leg.Pulse env) outgoingBeats l (x l).2 := (hx.quiet l).mono (by decide)
      obtain ⟨m, hopen, hclose, hend⟩ := hfailed e (x l).2
      exact ⟨m, hquiet.trans hopen, hclose, hend⟩
  | ok _ =>
      rw [hk]
      exact hx.reports_of_ok env hf hr

/-- Without anything to do for a failure, it fails. -/
theorem Reports.posting_or_fail {x f : Work σ Unit} (hx : Posts env x)
    (hf : Reports env outgoingBeats f) :
    Reports env outgoingBeats (x >>= fun _ => notify env .netOutPost >>= fun _ => f) := by
  intro l
  cases hr : (x l).1 with
  | error e =>
      rw [bind_of_error hr]
      refine ⟨(x l).2, (hx.quiet l).mono (by decide), .refl _, ?_⟩
      intro h
      cases h
  | ok _ =>
      rw [bind_of_ok hr]
      exact hx.reports_of_ok env hf hr

theorem reports_sendOneWay : Reports env outgoingBeats (sendOneWay env) := by
  unfold sendOneWay
  refine .after ((does_applyPolicy env).pulses env (by decide) (by decide)) fun _ => ?_
  refine .posting env (posts_sendSync env).ensureNotError rfl .finished fun e => ?_
  refine .closing ?_ (.bind_right fun _ => .bind_right fun _ => .fail e)
  exact (pulses_notifyFailure env e).bind fun _ => (pulses_finished env).bind fun _ => .fail e

theorem reports_sendRequest : Reports env outgoingBeats (sendRequest env) := by
  unfold sendRequest
  refine .after ((does_applyPolicy env).pulses env (by decide) (by decide)) fun _ => ?_
  refine .after (does_persist.pulses env (by decide) (by decide)) fun _ => ?_
  refine .posting env (posts_send env) rfl .finished fun e => ?_
  exact .after (does_release.pulses env (by decide) (by decide)) fun _ => .fail e

theorem reports_callAndWait : Reports env outgoingBeats (callAndWait env) := by
  unfold callAndWait
  refine .after ((does_applyPolicy env).pulses env (by decide) (by decide)) fun _ => ?_
  refine .posting_or_fail env (posts_sendSync env) ?_
  refine .after (does_respond.pulses env (by decide) (by decide)) fun _ => ?_
  exact reports_takeResponse env (by decide) (by simp)

theorem reports_outgoingRequest (variant : Variant) :
    Reports env outgoingBeats (outgoingRequest env variant) := by
  cases variant with
  | oneWay => exact reports_sendOneWay env
  | callback => exact reports_sendOneWay env
  | requestResponse sync =>
      cases sync with
      | false => exact reports_sendRequest env
      | true => exact reports_callAndWait env

theorem reports_sendResponse : Reports env outgoingBeats (sendResponse env) := by
  -- the policy is asked or not, and then the same is done
  have hrest : Reports env outgoingBeats (do
      sendSync env
      ensureNotError
      notify env .netOutPost
      notify env .finished) := by
    have hposting := Reports.posting_or_fail env (posts_sendSync env).ensureNotError
      (.finished : Reports env outgoingBeats _)
    rwa [bind_bind] at hposting
  unfold sendResponse
  refine .after .exchange fun e => ?_
  split
  · exact hrest
  · exact .after ((does_applyPolicy env).pulses env (by decide) (by decide)) fun _ => hrest

theorem reports_outgoingResponse (variant : Variant) :
    Reports env outgoingBeats (outgoingResponse env variant) := by
  cases variant with
  | oneWay => exact reports_sendResponse env
  | callback => exact reports_sendResponse env
  | requestResponse sync =>
      exact .after (does_release.pulses env (by decide) (by decide)) fun _ =>
        reports_sendResponse env

end ServiceBus.Work
