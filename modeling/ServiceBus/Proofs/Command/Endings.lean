import ServiceBus.Proofs.Command.Notices

set_option autoImplicit false

/-! # How calls that wait end for those who monitor them

A call that waits for its response makes one terminal notification (`callBlocking_ends`). It is
that the leg has finished exactly if the policy has accepted the response, and otherwise that the
leg is aborted by the failure that the caller gets.

What the accepted response holds is looked at only afterwards, for the caller. If that is a fault
which the bus did not write, or nothing at all, then the leg has finished and the caller gets a
failure all the same (`foreign_fault_finished`). -/

namespace ServiceBus

variable {σ : Type} (env : Environment σ)

/-- The terminal notifications of a trace. -/
def endsOf (trace : List Entry) : List Event := (noticesOf trace).filter (·.state.isTerminal)

/-- The policy has accepted a response and left it as `e`. -/
def ResponseAccepted (policies : List Call) (e : Exchange) : Prop :=
  ∃ e₀, .policy e₀ .sender .response ⟨e, none⟩ ∈ policies

theorem Leg.Steps.ends {acts : List Act} {l l' : Leg σ} (h : Steps acts l l')
    (hacts : .call .notify ∉ acts) : endsOf l'.trace = endsOf l.trace :=
  congrArg (List.filter _) (h.notices hacts)

namespace Work

variable {l : Leg σ}

theorem ends_notifyOf_of_terminal (l : Leg σ) (kind : NotificationKind) {state : LifecycleState}
    (reason : Option String) (h : state.isTerminal = true) :
    endsOf (notifyOf env kind state reason l).2.trace =
      endsOf l.trace ++ [l.event kind state reason] := by
  have hkept : [l.event kind state reason].filter (·.state.isTerminal) =
      [l.event kind state reason] :=
    List.filter_eq_self.mpr fun n hn => by rw [List.mem_singleton.mp hn]; exact h
  rw [endsOf, Leg.notices_notifyOf, List.filter_append, hkept]
  rfl

theorem ends_notifyOf_of_not_terminal (l : Leg σ) (kind : NotificationKind)
    {state : LifecycleState} (reason : Option String) (h : state.isTerminal = false) :
    endsOf (notifyOf env kind state reason l).2.trace = endsOf l.trace := by
  have hnone : [l.event kind state reason].filter (·.state.isTerminal) = [] :=
    List.filter_eq_nil_iff.mpr fun n hn => by
      rw [List.mem_singleton.mp hn]
      simp [Leg.event, Event.ofExchange, h]
  rw [endsOf, Leg.notices_notifyOf, List.filter_append, hnone, List.append_nil]
  rfl

/-! ## A leg before its end -/

/-- A leg before its end: nothing terminal has been notified, no failure is on record, and no
response has been accepted. -/
structure Underway (l : Leg σ) : Prop where
  closed : l.closed = false
  ends : endsOf l.trace = []
  failure : l.failure = none
  unaccepted : ∀ e, ¬ ResponseAccepted (callsOf [.policy] l.trace) e

namespace Underway

/-- Steps of other acts leave a leg underway. -/
theorem of_steps (h : Underway l) {acts : List Act} {l' : Leg σ} (hs : Leg.Steps acts l l')
    (hacts : ∀ act ∈ [.call .notify, .close, .record, .call .policy], act ∉ acts) :
    Underway l' := by
  refine ⟨?_, ?_, ?_, ?_⟩
  · rw [hs.closed (hacts _ (by decide)), h.closed]
  · rw [hs.ends (hacts _ (by decide)), h.ends]
  · rw [hs.failure (hacts _ (by decide)), h.failure]
  · rw [hs.callsOf (by simpa using hacts (.call .policy) (by decide))]
    exact h.unaccepted

/-- So does the policy, unless it accepts a response. -/
theorem applyPolicy (h : Underway l)
    (hne : l.scope = .request ∨ (l.ruling env).violation ≠ none) :
    Underway (Work.applyPolicy env l).2 := by
  have hs := does_applyPolicy env l
  refine ⟨?_, ?_, ?_, ?_⟩
  · rw [hs.closed (by decide), h.closed]
  · rw [hs.ends (by decide), h.ends]
  · rw [hs.failure (by decide), h.failure]
  · rintro e ⟨e₀, hmem⟩
    rw [policies_applyPolicy] at hmem
    rcases List.mem_append.mp hmem with hbefore | hnow
    · exact h.unaccepted e ⟨e₀, hbefore⟩
    · injection List.mem_singleton.mp hnow with _ _ hscope hruling
      rcases hne with hrequest | hrejected
      · rw [hrequest] at hscope
        cases hscope
      · rw [← hruling] at hrejected
        exact hrejected rfl

/-- So does a notification that is not terminal. -/
theorem notify (h : Underway l) {state : LifecycleState} (hs : state.isTerminal = false) :
    Underway (Work.notify env state l).2 := by
  have hsteps := does_notify env state l
  refine ⟨?_, ?_, ?_, ?_⟩
  · show (l.closed || state.isTerminal) = false
    rw [h.closed, hs]
    rfl
  · rw [Work.notify, ends_notifyOf_of_not_terminal env l .exchange none hs, h.ends]
  · rw [hsteps.failure (by decide), h.failure]
  · rw [hsteps.callsOf (by decide)]
    exact h.unaccepted

/-- A request is underway until its response has come. -/
theorem awaiting (h : Underway l) (hscope : l.scope = .request) :
    Underway (Work.awaiting env l) := by
  have hsent := (h.applyPolicy env (.inl hscope)).of_steps
    (does_sendSync env (Work.applyPolicy env l).2) (by decide)
  have hposted : Underway (Work.notify env .netOutPost _).2 := hsent.notify env rfl
  exact ⟨hposted.closed, hposted.ends, hposted.failure, hposted.unaccepted⟩

end Underway

/-! ## The end of the work -/

/-- How the work of a call that waits ends. A failure is either still to be notified, or has been
notified by the work; and the leg has finished only if the policy has accepted the response, which
is then as the policy has left it. -/
inductive CallWork (x : Except BusError Unit × Leg σ) : Prop where
  /-- The work fails without a terminal notification. -/
  | failed (e : BusError) (hx : x.1 = .error e) (hu : Underway x.2)
  /-- The work has notified its failure, and fails or has the failure recorded. -/
  | aborted (e : BusError) (hx : reply x = .error e) (hc : x.2.closed = true) (n : Event)
      (hn : endsOf x.2.trace = [n]) (hs : n.state = e.lifecycleState)
      (hr : n.reason = some e.reason)
      (hp : ∀ e', ¬ ResponseAccepted (callsOf [.policy] x.2.trace) e')
  /-- The work has notified that the leg has finished. -/
  | finished (hx : x.1 = .ok ()) (hf : x.2.failure = none) (hc : x.2.closed = true) (n : Event)
      (hn : endsOf x.2.trace = [n]) (hs : n.state = .finished)
      (hp : ResponseAccepted (callsOf [.policy] x.2.trace) x.2.exchange)

/-- A failure that is notified on a leg underway ends it, whatever else is done. -/
theorem CallWork.of_notifyFailure (h : Underway l) (e : BusError) {acts : List Act}
    {x : Except BusError Unit × Leg σ} (hs : Leg.Steps acts (notifyFailure env e l).2 x.2)
    (hacts : ∀ act ∈ [.call .notify, .close, .call .policy], act ∉ acts)
    (hx : reply x = .error e) : CallWork x := by
  have hn := does_notifyFailure env e l
  refine .aborted e hx ?_ (l.event .exchange e.lifecycleState (some e.reason)) ?_ rfl rfl ?_
  · rw [hs.closed (hacts _ (by decide))]
    exact closed_notifyOf env l .exchange _ e.isTerminal_lifecycleState
  · rw [hs.ends (hacts _ (by decide)), notifyFailure,
      ends_notifyOf_of_terminal env l .exchange _ e.isTerminal_lifecycleState, h.ends]
    rfl
  · rw [hs.callsOf (by simpa using hacts (.call .policy) (by decide)), hn.callsOf (by decide)]
    exact h.unaccepted

theorem callWork_failResponse (h : Underway l) (e : BusError) :
    CallWork (failResponse env true e l) := by
  have hx : failResponse env true e l =
      (acknowledge env >>= fun _ => Work.fail e) (notifyFailure env e l).2 :=
    bind_of_ok (notifyFailure_fst env l e) _
  have hack := does_acknowledge env (notifyFailure env e l).2
  have hsteps : Leg.Steps [.call .acknowledge] (notifyFailure env e l).2
      (failResponse env true e l).2 := by
    rw [hx, bind_of_ok (acknowledge_fst env _)]
    exact hack
  exact .of_notifyFailure env h e hsteps (by decide) (reply_failResponse env true e)

theorem callWork_reported (h : Underway l) (e : BusError) (message : Message) :
    CallWork (concludeResponse env true (some e) message l) := by
  have hack := does_acknowledge env l
  have hx : concludeResponse env true (some e) message l =
      (notifyFailure env e >>= fun _ => recordFailure e) (acknowledge env l).2 :=
    bind_of_ok (acknowledge_fst env l) _
  have hsteps : Leg.Steps [.record] (notifyFailure env e (acknowledge env l).2).2
      (concludeResponse env true (some e) message l).2 := by
    rw [hx, bind_of_ok (notifyFailure_fst env _ e)]
    exact does_recordFailure e _
  exact .of_notifyFailure env (h.of_steps hack (by decide)) e hsteps (by decide)
    (reply_concludeResponse_some env e message)

/-- A response that the policy has accepted ends the leg as finished, whatever is in it. -/
theorem callWork_accepted (h : Underway l) (hrole : l.role = .sender) (hscope : l.scope = .response)
    (hv : (l.ruling env).violation = none) (message : Message) :
    CallWork (concludeResponse env true none message (applyPolicy env l).2) := by
  have hpolicy := does_applyPolicy env l
  have hack := does_acknowledge env (applyPolicy env l).2
  have hn := does_notify env .finished (acknowledge env (applyPolicy env l).2).2
  have hruling : l.ruling env = ⟨(l.ruling env).exchange, none⟩ := by rw [← hv]
  rw [concludeResponse_none]
  refine .finished rfl ?_ ?_
    ((acknowledge env (applyPolicy env l).2).2.event .exchange .finished none) ?_ rfl ?_
  · rw [hn.failure (by decide), hack.failure (by decide), hpolicy.failure (by decide), h.failure]
  · exact closed_notifyOf env _ .exchange none rfl
  · rw [notify, ends_notifyOf_of_terminal env _ .exchange none rfl, hack.ends (by decide),
      hpolicy.ends (by decide), h.ends]
    rfl
  · refine ⟨l.exchange, ?_⟩
    rw [hn.callsOf (by decide), hack.callsOf (by decide), hn.exchange (by decide),
      hack.exchange (by decide), policies_applyPolicy, hrole, hscope, applyPolicy_snd, ← hruling]
    exact List.mem_append_right _ (List.mem_singleton_self _)

theorem callWork_takeResponse (h : Underway l) (hrole : l.role = .sender)
    (hscope : l.scope = .response) : CallWork (takeResponse env true l) := by
  have hgo : (letGo true l).2 = l := rfl
  have hcourse := takeResponse_course env true l
  rw [hgo] at hcourse
  cases hcourse with
  | marked he hx =>
      rw [hx]
      exact callWork_failResponse env h _
  | silent he hi hx =>
      rw [hx]
      exact .failed _ rfl h
  | reported he message hi remote hf hx =>
      rw [hx]
      exact callWork_reported env h remote message
  | rejected he message hi hf violation hv hx =>
      rw [hx]
      exact callWork_failResponse env (h.applyPolicy env (.inr (by simp [hv]))) _
  | accepted he message hi hf hv hx =>
      rw [hx]
      exact callWork_accepted env h hrole hscope hv message

theorem callWork_callAndWait (h : Underway l) (hrole : l.role = .sender)
    (hscope : l.scope = .request) : CallWork (callAndWait env l) := by
  have hjudged := h.applyPolicy env (.inl hscope)
  have hsend := does_sendSync env (applyPolicy env l).2
  cases hp : (applyPolicy env l).1 with
  | error e =>
      rw [callAndWait, bind_of_error hp]
      exact .failed e rfl hjudged
  | ok _ =>
      cases hs : (sendSync env (applyPolicy env l).2).1 with
      | error e =>
          rw [callAndWait, bind_of_ok hp, bind_of_error hs]
          exact .failed e rfl (hjudged.of_steps hsend (by decide))
      | ok _ =>
          rw [callAndWait_of_sent env hp hs]
          exact callWork_takeResponse env (h.awaiting env hscope)
            ((steps_awaiting env l).role.trans hrole) rfl

end Work

/-! ## The end of a call -/

namespace Command

open Work

variable {c : Command} {e : Exchange}

/-- How a call that waits ends, by what its caller gets, the rulings of the policy and the terminal
notifications. -/
inductive CallEnd (result : Except BusError Message) (policies : List Call) (ends : List Event) :
    Prop where
  /-- The policy has accepted the response: the leg has finished, and the caller gets what the
  exchange holds as the policy has left it, be it a message or a failure. -/
  | finished (e' : Exchange) (hp : ResponseAccepted policies e') (hr : result = e'.payload)
      (n : Event) (hn : ends = [n]) (hs : n.state = .finished)
  /-- The policy has accepted no response: the leg is aborted by the failure that the caller
  gets. -/
  | aborted (hp : ∀ e', ¬ ResponseAccepted policies e') (err : BusError)
      (hr : result = .error err) (n : Event) (hn : ends = [n]) (hs : n.state = err.lifecycleState)
      (hreason : n.reason = some err.reason)

/-- A failure is notified when the leg is settled, if that has not been done before. -/
theorem ends_settle_error (rethrow : Bool) (err : BusError) (l : Leg σ) :
    endsOf (settle env rethrow .sender (.error err) l).2.trace =
      if l.closed then endsOf l.trace
      else endsOf l.trace ++
        [(now l).2.event .exchange err.lifecycleState (some err.reason)] := by
  have hclosed : (now l).2.closed = l.closed := rfl
  rw [settle_eq, conclude_sender, close_error, hclosed]
  cases l.closed with
  | true => rfl
  | false => exact ends_notifyOf_of_terminal env _ .exchange _ err.isTerminal_lifecycleState

/-- Settling a leg asks the policy nothing. -/
theorem policies_settle_sender (rethrow : Bool) (result : Except BusError Unit) (l : Leg σ) :
    callsOf [.policy] (settle env rethrow .sender result l).2.trace = callsOf [.policy] l.trace :=
  (does_settle_sender env rethrow result l).callsOf (by decide)

theorem callEnd_settle (rethrow : Bool) {x : Except BusError Unit × Leg σ} (h : CallWork x) :
    CallEnd (reply x) (callsOf [.policy] (settle env rethrow .sender x.1 x.2).2.trace)
      (endsOf (settle env rethrow .sender x.1 x.2).2.trace) := by
  rw [policies_settle_sender]
  cases h with
  | failed e hx hu =>
      let last : Event := (now x.2).2.event .exchange e.lifecycleState (some e.reason)
      have hends : endsOf (settle env rethrow .sender (.error e) x.2).2.trace = [last] := by
        rw [ends_settle_error, hu.closed, hu.ends]
        rfl
      refine .aborted hu.unaccepted e ?_ last ?_ rfl rfl
      · rw [reply, hx]
      · rw [hx, hends]
  | aborted e hx hc n hn hs hr hp =>
      refine .aborted hp e hx n ?_ hs hr
      rw [← hn]
      cases hresult : x.1 with
      | ok _ => rw [settle_of_closed env rethrow hc]
      | error err => rw [ends_settle_error, if_pos hc]
  | finished hx hf hc n hn hs hp =>
      refine .finished x.2.exchange hp ?_ n ?_ hs
      · rw [reply, hx, hf]
      · rw [hx, settle_of_closed env rethrow hc, hn]

/-- A call that waits for its response makes one terminal notification: that the leg has finished
if the policy has accepted the response, and otherwise that the leg is aborted, with the failure
that the caller gets. In the first case the caller gets what the exchange holds then, and this is a
failure if there is a fault in it or no answer. -/
theorem callBlocking_ends (h : c.ready = .ok (.sender, .request, e))
    (hvariant : c.variant = .requestResponse true) (bus : Bus σ) (supply : Supply) :
    let y := c.callBlocking env bus supply
    CallEnd y.result (callsOf [.policy] y.trace) (endsOf y.trace) := by
  intro y
  let l := c.opening .sender .request e bus supply
  have hl : Underway l := ⟨rfl, rfl, rfl, fun _ hp => by obtain ⟨_, hmem⟩ := hp; cases hmem⟩
  have hwork : work env c.variant .sender .request l = callAndWait env l := by
    rw [hvariant]
    rfl
  have hend := callEnd_settle env c.rethrow (callWork_callAndWait env hl rfl rfl)
  have hcourse : c.course env .sender .request l = settle env c.rethrow .sender
      (callAndWait env l).1 (callAndWait env l).2 := by
    rw [course_eq_settle, hwork]
  have htrace : y.trace = (c.course env .sender .request l).2.trace :=
    execute_trace env h bus supply
  have hresult : y.result = reply (callAndWait env l) := by
    have hreply : y.result = reply (c.course env .sender .request l) :=
      callBlocking_eq_reply env h bus supply
    rw [hreply, hcourse, reply_settle]
  rw [hresult, htrace, hcourse]
  exact hend

section Books

open Rehearsal

/-- A caller that gets the price of a book: the leg has finished. -/
theorem callBlocking_ends_price :
    let bus : Bus Channel :=
      { parties := { sendSync := [{ change := { output := some (some { body := "12" }) } }] } }
    let y := bookCall.callBlocking (environment ∅ .permissive) bus .counting
    y.result = .ok { body := "12" } ∧
      CallEnd y.result (callsOf [.policy] y.trace) (endsOf y.trace) :=
  ⟨rfl, callBlocking_ends (environment ∅ .permissive) (c := bookCall) rfl rfl _ _⟩

/-- A fault that the bus did not write: the caller gets the failure that it tells of, and
monitoring is notified that the leg has finished. -/
theorem foreign_fault_finished :
    let fault := "<error>AuthenticationException: bad token</error>"
    let bus : Bus Channel :=
      { parties := { sendSync := [{ change := { fault := some (some { body := fault }) } }] } }
    let y := bookCall.callBlocking (environment ∅ .permissive) bus .counting
    y.result = .error (.remote .authentication fault) ∧
      (noticesOf y.trace).map (·.state) = [.netOutPost, .finished] :=
  ⟨rfl, rfl⟩

end Books

end Command

end ServiceBus
