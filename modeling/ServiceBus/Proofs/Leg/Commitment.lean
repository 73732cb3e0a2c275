import ServiceBus.Proofs.Leg.Keeping
import ServiceBus.Proofs.Leg.Signals

set_option autoImplicit false

/-! # Where a leg is acknowledged

The acknowledgement commits the transport to the leg, and what the participant has been told by
then depends on the leg. `Work.Commits` says of a piece of work what it does before it acknowledges
and what it does after it; `Work.MayCommit` allows that it ends without an acknowledgement.

One-way requests, and answers to requests that expected none, are acknowledged before the
participant is told about them (`mayCommit_receiveOneWay`, `mayCommit_receiveCallback`,
`mayCommit_takeFault`); a response that somebody is called back with is acknowledged when the
participant has been told about it, whatever the participant does
(`mayCommit_takeResponse`). A request with a response is acknowledged only if the participant has
taken it (`onlyAfter_incomingRequest`). -/

namespace ServiceBus

variable {σ α β : Type}

/-! ## Runs with an acknowledgement -/

/-- The run is one of acts before an acknowledgement, the acknowledgement, and acts after it. -/
def Leg.Committed (env : Environment σ) (before after : List Act) (l l' : Leg σ) : Prop :=
  ∃ m, Steps before l m ∧ Steps after (Work.acknowledge env m).2 l'

/-- The calls that have been made on a leg. -/
def Leg.calls (l : Leg σ) : List Call := l.trace.map (·.call)

namespace Leg

variable {env : Environment σ} {before after quiet acts : List Act} {l l' l'' : Leg σ}

/-- A run adds calls of its acts. -/
theorem Steps.calls (h : Steps acts l l') :
    ∃ added, l'.calls = l.calls ++ added ∧ ∀ c ∈ added, .call c.kind ∈ acts := by
  refine Run.of_step (P := fun m => ∃ added, m.calls = l.calls ++ added ∧
    ∀ c ∈ added, .call c.kind ∈ acts) (fun act hact a b hs ha => ?_) h ⟨[], by simp, by simp⟩
  obtain ⟨added, hcalls, hadded⟩ := ha
  have hone : ∀ c s, .call c.kind ∈ acts → ∃ added', (a.called c s).calls = l.calls ++ added' ∧
      ∀ c ∈ added', .call c.kind ∈ acts := by
    intro c s hc
    refine ⟨added ++ [c], ?_, ?_⟩
    · rw [← List.append_assoc, ← hcalls]
      exact List.map_append
    · intro d hd
      rcases List.mem_append.mp hd with hd | hd
      · exact hadded d hd
      · rw [List.mem_singleton.mp hd]
        exact hc
  cases hs with
  | call _ c s => exact hone c s hact
  | signal _ c s => exact hone c s hact
  | _ => exact ⟨added, hcalls, hadded⟩

/-- On a leg without calls, a run makes only calls of its acts. -/
theorem Steps.kind_not_mem {kinds : List CallKind} (h : Steps acts l l') (hl : l.trace = [])
    (hacts : ∀ kind ∈ kinds, .call kind ∉ acts) : ∀ c ∈ l'.calls, c.kind ∉ kinds := by
  obtain ⟨added, hcalls, hadded⟩ := h.calls
  have hnone : l.calls = [] := by rw [Leg.calls, hl, List.map_nil]
  rw [hcalls, hnone, List.nil_append]
  exact fun c hc hk => hacts c.kind hk (hadded c hc)

/-- On a leg without calls, a run without the act makes no acknowledgement. -/
theorem Steps.not_acknowledged (h : Steps acts l l') (hl : l.trace = [])
    (hacts : .call .acknowledge ∉ acts) : ∀ c ∈ l'.calls, ¬ c.kind = .acknowledge := by
  have hkinds : ∀ kind ∈ [CallKind.acknowledge], .call kind ∉ acts := by simpa using hacts
  exact fun c hc hk => h.kind_not_mem hl hkinds c hc (List.mem_singleton.mpr hk)

/-- The acknowledgement comes behind the calls made before. -/
theorem calls_acknowledge (env : Environment σ) (h : l.signalled = false) :
    ∃ failure, (Work.acknowledge env l).2.calls =
      l.calls ++ [.acknowledge l.exchange failure] := by
  obtain ⟨failure, htrace⟩ := Work.trace_acknowledge env h
  exact ⟨failure, by rw [calls, htrace, List.map_append]; rfl⟩

namespace Committed

/-- What was done before. -/
theorem trans_left (h : Steps before l l') (h' : Committed env before after l' l'') :
    Committed env before after l l'' := by
  obtain ⟨m, hm, hl⟩ := h'
  exact ⟨m, h.trans hm, hl⟩

/-- If there are calls of some kinds only after the acknowledgement, it comes before them. -/
theorem onlyAfter {kinds : List CallKind} (h : Committed env before after l l')
    (hl : l.trace = []) (hmark : l.signalled = false)
    (hsignal : ∀ kind ∈ signalKinds, .call kind ∉ before)
    (hkinds : ∀ kind ∈ kinds, .call kind ∉ before) (hack : .acknowledge ∉ kinds) :
    OnlyAfter (·.kind = .acknowledge) (·.kind ∈ kinds) l'.calls := by
  obtain ⟨m, hm, hrest⟩ := h
  obtain ⟨failure, hcalls⟩ := calls_acknowledge env
    ((hm.signalled_eq hsignal).trans hmark)
  obtain ⟨added, hadded, -⟩ := hrest.calls
  have hbefore : ∀ c ∈ m.calls ++ [Call.acknowledge m.exchange failure], c.kind ∉ kinds := by
    intro c hc
    rcases List.mem_append.mp hc with hc | hc
    · exact hm.kind_not_mem hl hkinds c hc
    · rw [List.mem_singleton.mp hc]
      exact hack
  have hkind : (Call.acknowledge m.exchange failure).kind = .acknowledge := rfl
  rw [hadded, hcalls]
  exact .of_mem hbefore (List.mem_append_right _ (List.mem_singleton_self _)) hkind added

/-- If there are no calls of some kinds after the acknowledgement, all of them come before it. -/
theorem precede {kinds : List CallKind} (h : Committed env before after l l')
    (hl : l.trace = []) (hmark : l.signalled = false)
    (hsignal : ∀ kind ∈ signalKinds, .call kind ∉ before)
    (hkinds : ∀ kind ∈ kinds, .call kind ∉ after) (hack : .acknowledge ∉ kinds) :
    Precede (·.kind ∈ kinds) (·.kind = .acknowledge) l'.calls := by
  obtain ⟨m, hm, hrest⟩ := h
  obtain ⟨failure, hcalls⟩ := calls_acknowledge env
    ((hm.signalled_eq hsignal).trans hmark)
  obtain ⟨added, hadded, hafter⟩ := hrest.calls
  have hkind : (Call.acknowledge m.exchange failure).kind = .acknowledge := rfl
  rw [hadded, hcalls, List.append_assoc]
  refine .of_mem (fun c hc hc' => ?_) hkind hack fun c hc hk => hkinds _ hk (hafter c hc)
  exact hm.kind_not_mem hl hsignal c hc (by rw [hc']; decide)

end Committed

end Leg

/-! ## Work that acknowledges -/

namespace Work

variable (env : Environment σ)

/-- The work acknowledges. It does acts before the acknowledgement, and acts after it. -/
def Commits (before after : List Act) (x : Work σ α) : Prop :=
  ∀ l, Leg.Committed env before after l (x l).2

/-- The work acknowledges, or it ends without an acknowledgement and does quiet acts. -/
def MayCommit (quiet before after : List Act) (x : Work σ α) : Prop :=
  ∀ l, Leg.Steps quiet l (x l).2 ∨ Leg.Committed env before after l (x l).2

variable {env} {quiet before after acts : List Act}

namespace Commits

theorem acknowledge {f : Unit → Work σ α} (hf : ∀ a, Does after (f a)) :
    Commits env before after (Work.acknowledge env >>= f) := by
  intro l
  rw [bind_of_ok (acknowledge_fst env l)]
  exact ⟨l, .refl l, hf () _⟩

/-- What comes first does not fail, and does acts before the acknowledgement. -/
theorem bind_right {x : Work σ α} {f : α → Work σ β} (hx : Does before x)
    (hok : ∀ l, ∃ a, (x l).1 = .ok a) (hf : ∀ a, Commits env before after (f a)) :
    Commits env before after (x >>= f) := by
  intro l
  obtain ⟨a, ha⟩ := hok l
  rw [bind_of_ok ha]
  exact (hf a _).trans_left (hx l)

end Commits

namespace MayCommit

theorem of_does {x : Work σ α} (h : Does quiet x) : MayCommit env quiet before after x :=
  fun l => .inl (h l)

theorem of_commits {x : Work σ α} (h : Commits env before after x) :
    MayCommit env quiet before after x :=
  fun l => .inr (h l)

/-- What comes first may fail, and does quiet acts. -/
theorem bind_right {x : Work σ α} {f : α → Work σ β} (hx : Does quiet x) (hsub : quiet ⊆ before)
    (hf : ∀ a, MayCommit env quiet before after (f a)) :
    MayCommit env quiet before after (x >>= f) := by
  intro l
  cases hr : (x l).1 with
  | error e =>
      rw [bind_of_error hr]
      exact .inl (hx l)
  | ok a =>
      rw [bind_of_ok hr]
      rcases hf a (x l).2 with h | h
      · exact .inl ((hx l).trans h)
      · exact .inr (h.trans_left ((hx l).mono hsub))

section Order

variable {kinds : List CallKind} {x : Work σ α} {l : Leg σ}
  (h : MayCommit env quiet before after x) (hl : l.trace = []) (hmark : l.signalled = false)
  (hquiet : ∀ kind ∈ kinds, .call kind ∉ quiet)
  (hsignal : ∀ kind ∈ signalKinds, .call kind ∉ before) (hack : .acknowledge ∉ kinds)

include h hl hmark hquiet hsignal hack

theorem onlyAfter (hbefore : ∀ kind ∈ kinds, .call kind ∉ before) :
    OnlyAfter (·.kind = .acknowledge) (·.kind ∈ kinds) (x l).2.calls := by
  rcases h l with hsteps | hcommitted
  · exact .of_forall (hsteps.kind_not_mem hl hquiet)
  · exact hcommitted.onlyAfter hl hmark hsignal hbefore hack

theorem precede (hafter : ∀ kind ∈ kinds, .call kind ∉ after) :
    Precede (·.kind ∈ kinds) (·.kind = .acknowledge) (x l).2.calls := by
  rcases h l with hsteps | hcommitted
  · exact .of_forall (hsteps.kind_not_mem hl hquiet)
  · exact hcommitted.precede hl hmark hsignal hafter hack

end Order

end MayCommit

/-! ## Requests that expect no response -/

variable (env)

/-- The acts of a request that expects no response, before it is acknowledged. -/
def uncommittedActs : List Act :=
  [.draw, .call .notify, .close, .find, .call .handleError, .call .policy, .replace]

theorem commits_turnAway (failure : BusError) :
    Commits env uncommittedActs requestActs (turnAway env failure) := by
  unfold turnAway
  refine .bind_right ((does_notifyFailure env failure).mono (by decide)) (fun _ => ⟨(), rfl⟩)
    fun _ => ?_
  refine .bind_right ((does_deliverErrorQuietly env failure).mono (by decide))
    (fun l => ⟨(), deliverErrorQuietly_fst env l failure⟩) fun _ => ?_
  exact .acknowledge fun _ => .fail failure

/-- A request that expects no response is notified and judged, and turned away or gone on with. -/
theorem mayCommit_arrival {accepted : Work σ Unit}
    (h : MayCommit env uncommittedActs uncommittedActs requestActs accepted) :
    MayCommit env uncommittedActs uncommittedActs requestActs (do
      if (← exchange).isError then turnAway env (← exchange).failureError
      else do
        notify env .netInPost
        match ← attempt (applyPolicy env) with
        | .error violation => turnAway env violation
        | .ok () => accepted) := by
  refine .bind_right Does.exchange (fun _ h => h) fun e => ?_
  split
  · exact .bind_right Does.exchange (fun _ h => h) fun e => .of_commits (commits_turnAway env _)
  · refine .bind_right ((does_notify env _).mono (by decide)) (fun _ h => h) fun _ => ?_
    refine .bind_right ((does_applyPolicy env).mono (by decide)).attempt (fun _ h => h) fun r => ?_
    cases r with
    | error violation => exact .of_commits (commits_turnAway env violation)
    | ok _ => exact h

theorem mayCommit_receiveOneWay :
    MayCommit env uncommittedActs uncommittedActs requestActs (receiveOneWay env) := by
  refine mayCommit_arrival env ?_
  refine .bind_right (does_inboundMessage.mono (by decide)) (fun _ h => h) fun message => ?_
  refine .of_commits (.acknowledge fun _ => ?_)
  refine ((does_deliverMessage env message).mono (by decide)).bind fun _ => ?_
  exact (does_notify env _).mono (by decide)

theorem mayCommit_receiveCallback :
    MayCommit env uncommittedActs uncommittedActs requestActs (receiveCallback env) :=
  mayCommit_arrival env
    (.of_commits (.acknowledge fun _ => (does_deliverOrSendFault env).mono (by decide)))

/-! ## Answers -/

/-- What is done about an answer depends on whether it is marked as failed or brings a message. -/
theorem mayCommit_openAnswer {failed : BusError → Work σ Unit} {brought : Message → Work σ Unit}
    (hsub : quiet ⊆ before) (hf : ∀ e, MayCommit env quiet before after (failed e))
    (hb : ∀ message, MayCommit env quiet before after (brought message)) :
    MayCommit env quiet before after (openAnswer failed brought) := by
  unfold openAnswer
  refine .bind_right Does.exchange hsub fun e => ?_
  split
  · exact .bind_right Does.exchange hsub fun e => hf _
  · exact .bind_right (does_inboundMessage.mono (by simp)) hsub hb

theorem mayCommit_takeFault : MayCommit env noticeActs noticeActs answerActs (takeFault env) := by
  refine mayCommit_openAnswer env (fun _ h => h) (fun failure => ?_) fun message => ?_
  · refine .of_commits (.bind_right (does_notifyFailure env failure) (fun _ => ⟨(), rfl⟩)
      fun _ => ?_)
    refine .acknowledge fun _ => ?_
    refine ((does_deliverErrorQuietly env _).mono (by decide)).bind fun _ => ?_
    exact (does_recordFailure _).mono (by decide)
  · refine .of_commits (.bind_right (does_notify env _) (fun _ => ⟨(), rfl⟩) fun _ => ?_)
    exact .acknowledge fun _ => (does_tellAnswer env message).mono (by decide)

/-! ## Responses that somebody is called back with -/

/-- The acts of a response, before it is known to be answered. -/
def judgingResponseActs : List Act := [.keep, .call .policy, .replace]

/-- The acts of a response, before it is acknowledged. -/
def tellingActs : List Act := judgingResponseActs ++ deliveryActs

/-- The acts of a response that has been acknowledged. -/
def settledActs : List Act := .record :: noticeActs

theorem commits_failResponse (failure : BusError) :
    Commits env tellingActs settledActs (failResponse env false failure) := by
  refine .bind_right ((does_notifyFailure env failure).mono (by decide)) (fun _ => ⟨(), rfl⟩)
    fun _ => ?_
  refine .bind_right ((does_deliverErrorQuietly env failure).mono (by decide))
    (fun l => ⟨(), deliverErrorQuietly_fst env l failure⟩) fun _ => ?_
  exact .acknowledge fun _ => (does_recordFailure failure).mono (by decide)

theorem commits_concludeResponse (remote : Option BusError) (message : Message) :
    Commits env tellingActs settledActs (concludeResponse env false remote message) := by
  refine .bind_right ((does_deliverResponse env remote message).mono (by decide))
    (deliverResponse_fst env remote message) fun delivered => ?_
  refine .acknowledge fun _ => ?_
  cases delivered with
  | error e => exact .fail e
  | ok _ => exact (does_notify env _).mono (by decide)

theorem mayCommit_takeMessage (message : Message) :
    MayCommit env judgingResponseActs tellingActs settledActs (takeMessage env false message) := by
  unfold takeMessage
  cases BusError.ofFault? message.body with
  | some remote => exact .of_commits (commits_concludeResponse env _ message)
  | none =>
      refine .bind_right ((does_applyPolicy env).mono (by decide)).attempt (by decide) fun r => ?_
      cases r with
      | error violation => exact .of_commits (commits_failResponse env violation)
      | ok _ => exact .of_commits (commits_concludeResponse env none message)

theorem mayCommit_takeResponse :
    MayCommit env judgingResponseActs tellingActs settledActs (takeResponse env false) := by
  refine .bind_right (does_release.mono (by decide)) (by decide) fun _ => ?_
  exact mayCommit_openAnswer env (by decide)
    (fun failure => .of_commits (commits_failResponse env failure)) (mayCommit_takeMessage env)

/-! ## Requests with a response -/

/-- The acts of a request with a response that the policy rejects. -/
def refusalActs : List Act :=
  [.draw, .call .notify, .close, .find, .call .handleError, .keep, .call .refuse]

theorem does_rejectRequest_of_response (violation : BusError) (sync : Bool) :
    Does refusalActs (rejectRequest env violation (.requestResponse sync)) := by
  refine ((does_notifyFailure env violation).mono (by decide)).bind fun _ => ?_
  refine ((does_deliverError env violation).mono (by decide)).attempt.bind fun told => ?_
  refine (does_release.mono (by decide)).bind fun _ => ?_
  exact ((does_refuse env _).mono (by decide)).bind fun _ => .fail violation

/-- A message that has been delivered has been taken by a handler. -/
theorem handled_of_deliverMessage {l : Leg σ} {message : Message}
    (h : (deliverMessage env message l).1 = .ok ()) :
    ∃ handler incoming, .handleMessage handler incoming none ∈
      (deliverMessage env message l).2.calls := by
  cases hh : l.participant? with
  | none =>
      rw [deliverMessage, bind_of_error (requireHandler_of_none hh)] at h
      cases h
  | some handler =>
      rcases deliverMessage_cases env hh message with ⟨failure, hresult, hcalls⟩ | ⟨_, -, hfail, -⟩
      · rw [hresult] at h
        cases failure with
        | some failure => cases h
        | none =>
            have hmem : .handleMessage handler (l.incoming message) none ∈
                callsOf callbackKinds (deliverMessage env message l).2.trace := by simp [hcalls]
            exact ⟨handler, _, (List.mem_filter.mp hmem).1⟩
      · rw [hfail] at h
        cases h

/-- A request with a response is acknowledged only when a handler has taken it. -/
theorem onlyAfter_incomingRequest (sync : Bool) {l : Leg σ} (hl : l.trace = [])
    (hscope : l.scope = .request) (he : l.exchange.isError = false) :
    OnlyAfter (fun c => ∃ handler incoming, c = .handleMessage handler incoming none)
      (·.kind = .acknowledge) (incomingRequest env (.requestResponse sync) l).2.calls := by
  have hj : Leg.Steps rulingActs l (l.judged env (.requestResponse sync)) := steps_judged env _
  cases incomingRequest_course env sync hscope he with
  | rejected violation hv hx =>
      have hr := does_rejectRequest_of_response env (BusError.ofViolation violation) sync
        (l.judged env (.requestResponse sync))
      have hsteps : Leg.Steps (rulingActs ++ refusalActs) l (rejectRequest env
          (BusError.ofViolation violation) (.requestResponse sync) _).2 :=
        (hj.mono (by decide)).trans (hr.mono (by decide))
      rw [hx]
      exact .of_forall (hsteps.not_acknowledged hl (by decide))
  | empty hv hi hx =>
      rw [hx]
      exact .of_forall (hj.not_acknowledged hl (by decide))
  | undelivered hv message hi e hd hx =>
      have hm := does_deliverMessage env message (l.judged env (.requestResponse sync))
      have hsteps : Leg.Steps (.keep :: (rulingActs ++ messageActs)) l (release
          (deliverMessage env message (l.judged env (.requestResponse sync))).2).2 :=
        (hj.mono (by decide)).trans
          ((hm.mono (by decide)).trans ((does_release _).mono (by decide)))
      rw [hx]
      exact .of_forall (hsteps.not_acknowledged hl (by decide))
  | delivered hv message hi hd hx =>
      have hm := does_deliverMessage env message (l.judged env (.requestResponse sync))
      have hsteps : Leg.Steps (rulingActs ++ messageActs) l
          (deliverMessage env message (l.judged env (.requestResponse sync))).2 :=
        (hj.mono (by decide)).trans (hm.mono (by decide))
      have hend : Does (.call .acknowledge :: noticeActs)
          (acknowledge env >>= fun _ => notify env .finished) :=
        ((does_acknowledge env).mono (by decide)).bind fun _ =>
          (does_notify env .finished).mono (by decide)
      obtain ⟨handler, incoming, hmem⟩ := handled_of_deliverMessage env hd
      obtain ⟨added, hadded, -⟩ :=
        (hend (deliverMessage env message (l.judged env (.requestResponse sync))).2).calls
      rw [bind_of_ok (acknowledge_fst env _)] at hadded
      rw [hx, hadded]
      exact .of_mem (hsteps.not_acknowledged hl (by decide)) hmem ⟨handler, incoming, rfl⟩ added

end Work

end ServiceBus
