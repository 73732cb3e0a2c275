import ServiceBus.Proofs.Leg.Outgoing

set_option autoImplicit false

/-! # How many calls are made

`Work.AtMost kinds n` says of a piece of work that, on every leg, it makes at most `n` calls of
the given kinds. A question is one call, work whose acts are of other kinds makes none, and a
sequence makes as many as its parts together.

Whatever a response is, the participant is told about it at most once
(`atMost_incomingResponse`), and a caller that waits has the transport asked at most once
(`atMost_callAndWait`). -/

namespace ServiceBus.Work

variable {σ α β : Type}

/-- The work makes at most `n` calls of the given kinds. -/
def AtMost (kinds : List CallKind) (n : Nat) (x : Work σ α) : Prop :=
  ∀ l, (callsOf kinds (x l).2.trace).length ≤ (callsOf kinds l.trace).length + n

namespace AtMost

variable {kinds : List CallKind} {n n' : Nat}

theorem of_does {acts : List Act} {x : Work σ α} (h : Does acts x)
    (hacts : ∀ kind ∈ kinds, .call kind ∉ acts) : AtMost kinds 0 x := by
  intro l
  rw [(h l).callsOf hacts]
  exact Nat.le_refl _

theorem mono {x : Work σ α} (h : AtMost kinds n x) (hn : n ≤ n') : AtMost kinds n' x :=
  fun l => Nat.le_trans (h l) (Nat.add_le_add_left hn _)

theorem fail (e : BusError) : AtMost kinds n (Work.fail e : Work σ α) :=
  fun _ => Nat.le_add_right _ _

theorem ask (question : σ → α × σ) (call : α → Call) :
    AtMost kinds 1 (Work.ask question call) := by
  intro l
  show (callsOf kinds (l.trace ++ [_])).length ≤ _
  rw [callsOf_append, List.length_append]
  exact Nat.add_le_add_left (List.length_filter_le _ _) _

theorem bind {x : Work σ α} {f : α → Work σ β} (hx : AtMost kinds n x)
    (hf : ∀ a, AtMost kinds n' (f a)) : AtMost kinds (n + n') (x >>= f) := by
  intro l
  have hfirst := hx l
  cases hr : (x l).1 with
  | error e =>
      rw [bind_of_error hr]
      exact Nat.le_trans hfirst (by omega)
  | ok a =>
      have hsecond := hf a (x l).2
      rw [bind_of_ok hr]
      omega

/-- Work without such calls adds nothing to what comes after it. -/
theorem after (acts : List Act) {x : Work σ α} {f : α → Work σ β} (hx : Does acts x)
    (hacts : ∀ kind ∈ kinds, .call kind ∉ acts) (hf : ∀ a, AtMost kinds n (f a)) :
    AtMost kinds n (x >>= f) :=
  ((of_does hx hacts).bind hf).mono (Nat.le_of_eq (Nat.zero_add n))

/-- Work without such calls adds nothing to what comes before it. -/
theorem before (acts : List Act) {x : Work σ α} {f : α → Work σ β} (hx : AtMost kinds n x)
    (hf : ∀ a, Does acts (f a)) (hacts : ∀ kind ∈ kinds, .call kind ∉ acts) :
    AtMost kinds n (x >>= f) :=
  hx.bind fun a => of_does (hf a) hacts

theorem attempt {x : Work σ α} (hx : AtMost kinds n x) : AtMost kinds n (Work.attempt x) := hx

end AtMost

/-! ## What the participant is told about a response -/

variable (env : Environment σ)

theorem atMost_deliverError (e : BusError) : AtMost callbackKinds 1 (deliverError env e) := by
  unfold deliverError
  refine .after _ does_requireHandler (by decide) fun handler => ?_
  refine .after [] Does.leg (by decide) fun l => ?_
  exact (AtMost.ask _ _).before [] (fun _ => Does.check _) (by decide)

theorem atMost_deliverErrorQuietly (e : BusError) :
    AtMost callbackKinds 1 (deliverErrorQuietly env e) := by
  unfold deliverErrorQuietly
  refine (atMost_deliverError env e).attempt.before noticeActs (fun delivered => ?_) (by decide)
  cases delivered with
  | ok _ => exact .pure ()
  | error secondary => exact does_notifyOf env _ _ _

theorem atMost_deliverMessage (message : Message) :
    AtMost callbackKinds 1 (deliverMessage env message) := by
  unfold deliverMessage
  refine .after _ does_requireHandler (by decide) fun handler => ?_
  refine .after [] Does.leg (by decide) fun l => ?_
  split
  · exact .fail _
  · unfold handOver
    refine .after _ (does_notify env .appIn) (by decide) fun _ => ?_
    exact (AtMost.ask _ _).before [] (fun _ => Does.check _) (by decide)

theorem atMost_takeFailure (failure : BusError) :
    AtMost callbackKinds 1 (takeFailure env failure) := by
  unfold takeFailure
  refine .after _ (does_notifyFailure env failure) (by decide) fun _ => ?_
  refine .after _ (does_acknowledge env) (by decide) fun _ => ?_
  exact (atMost_deliverErrorQuietly env failure).before _ (fun _ => does_recordFailure failure)
    (by decide)

theorem atMost_takeAnswer (message : Message) :
    AtMost callbackKinds 1 (takeAnswer env message) := by
  have hend := does_notify env .finished
  unfold takeAnswer
  refine .after _ (does_notify env .netInPost) (by decide) fun _ => ?_
  refine .after _ (does_acknowledge env) (by decide) fun _ => ?_
  cases BusError.ofFault? message.body with
  | some remote =>
      refine (atMost_deliverError env remote).before (.record :: noticeActs) (fun _ => ?_)
        (by decide)
      exact ((does_recordFailure remote).mono (by decide)).bind fun _ => hend.mono (by decide)
  | none => exact (atMost_deliverMessage env message).before _ (fun _ => hend) (by decide)

theorem atMost_openAnswer {kinds : List CallKind} {n : Nat} {failed : BusError → Work σ Unit}
    {brought : Message → Work σ Unit} (hf : ∀ e, AtMost kinds n (failed e))
    (hb : ∀ message, AtMost kinds n (brought message)) :
    AtMost kinds n (openAnswer failed brought) := by
  unfold openAnswer
  refine .after [] Does.exchange (by simp) fun e => ?_
  split
  · exact .after [] Does.exchange (by simp) fun e => hf _
  · exact .after [] does_inboundMessage (by simp) hb

theorem atMost_failResponse (failure : BusError) :
    AtMost callbackKinds 1 (failResponse env false failure) := by
  refine .after _ (does_notifyFailure env failure) (by decide) fun _ => ?_
  refine (atMost_deliverErrorQuietly env failure).before [.call .acknowledge, .record]
    (fun _ => ?_) (by decide)
  exact ((does_acknowledge env).mono (by decide)).bind fun _ =>
    (does_recordFailure failure).mono (by decide)

theorem atMost_deliverResponse (remote : Option BusError) (message : Message) :
    AtMost callbackKinds 1 (deliverResponse env remote message) := by
  have hfailure : ∀ e, AtMost callbackKinds 1 (deliverFailure env e) := by
    intro e
    refine (atMost_deliverError env e).attempt.before [.record] (fun delivered => ?_) (by decide)
    exact (does_recordFailure e).bind fun _ => .pure delivered
  unfold deliverResponse
  cases remote with
  | some e => exact hfailure e
  | none =>
      refine .after [] Does.exchange (by decide) fun e => ?_
      split
      · exact hfailure _
      · exact (atMost_deliverMessage env message).attempt

theorem atMost_concludeResponse (remote : Option BusError) (message : Message) :
    AtMost callbackKinds 1 (concludeResponse env false remote message) := by
  refine (atMost_deliverResponse env remote message).before (.call .acknowledge :: noticeActs)
    (fun delivered => ?_) (by decide)
  refine ((does_acknowledge env).mono (by decide)).bind fun _ => ?_
  cases delivered with
  | error e => exact .fail e
  | ok _ => exact (does_notify env .finished).mono (by decide)

theorem atMost_takeMessage (message : Message) :
    AtMost callbackKinds 1 (takeMessage env false message) := by
  unfold takeMessage
  cases BusError.ofFault? message.body with
  | some remote => exact atMost_concludeResponse env (some remote) message
  | none =>
      refine .after _ (does_applyPolicy env).attempt (by decide) fun judged => ?_
      cases judged with
      | error violation => exact atMost_failResponse env violation
      | ok _ => exact atMost_concludeResponse env none message

/-- The participant is told about a response at most once. -/
theorem atMost_incomingResponse (variant : Variant) :
    AtMost callbackKinds 1 (incomingResponse env variant) := by
  have hfault : AtMost callbackKinds 1 (takeFault env) :=
    atMost_openAnswer (atMost_takeFailure env) (atMost_takeAnswer env)
  cases variant with
  | oneWay => exact hfault
  | callback => exact hfault
  | requestResponse sync =>
      cases sync with
      | true =>
          exact (AtMost.of_does (does_takeResponse_sync env) (by decide)).mono (Nat.zero_le 1)
      | false =>
          refine .after _ (does_letGo false) (by decide) fun _ => ?_
          exact atMost_openAnswer (atMost_failResponse env) (atMost_takeMessage env)

/-! ## What the transport is asked by a caller that waits -/

theorem atMost_sendSync : AtMost [.sendSync] 1 (sendSync env) := by
  unfold sendSync
  refine .after [] Does.exchange (by decide) fun e => ?_
  refine AtMost.before [.replace] (AtMost.ask _ _) (fun answer => ?_) (by decide)
  exact Does.bind (fun l => .single (.replace l _) (by decide)) fun _ => Does.check _

/-- A request whose caller waits is handed over at most once. -/
theorem atMost_callAndWait : AtMost [.sendSync] 1 (callAndWait env) := by
  unfold callAndWait
  refine .after _ (does_applyPolicy env) (by decide) fun _ => ?_
  refine (atMost_sendSync env).before (.respond :: awaitedActs) (fun _ => ?_) (by decide)
  refine ((does_notify env .netOutPost).mono (by decide)).bind fun _ => ?_
  refine (does_respond.mono (by decide)).bind fun _ => ?_
  exact (does_takeResponse_sync env).mono (by decide)

end ServiceBus.Work
