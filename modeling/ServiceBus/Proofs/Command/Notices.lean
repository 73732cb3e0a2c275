import ServiceBus.Proofs.Command.Departure
import ServiceBus.Proofs.Command.Faults
import ServiceBus.Proofs.Leg.Notices

set_option autoImplicit false

/-! # What executions tell monitoring

The notifications of an execution are any number that open the leg and then one or more that close
it (`execute_notices`). They tell the truth: a message comes in when it is handed to the
participant, what is reported as sent has been accepted by the transport before, and a leg is
aborted only if the command records a failure. -/

namespace ServiceBus.Command

open Work

variable {σ : Type} (env : Environment σ) {c : Command} {role : Role} {scope : Scope}
  {e : Exchange}

/-! ## The beats of a course -/

/-- The beats of a leg until it is closed. -/
def openingBeats (role : Role) (scope : Scope) : List Beat :=
  if bringsIn role scope then incomingBeats else outgoingBeats

theorem reports_work (variant : Variant) (role : Role) (scope : Scope) :
    Reports env (openingBeats role scope) (work env variant role scope) := by
  cases role with
  | sender =>
      cases scope with
      | request => exact reports_outgoingRequest env variant
      | response => exact reports_incomingResponse env variant
  | receiver =>
      cases scope with
      | response => exact reports_outgoingResponse env variant
      | request =>
          show Reports env incomingBeats (work env variant .receiver .request)
          refine .after (does_resolveHandler.pulses env (by decide) (by decide)) fun handler => ?_
          cases handler with
          | some handler => exact reports_incomingRequest env variant
          | none => exact .after .exchange fun e => .fail _

theorem pulses_close (result : Except BusError Unit) :
    Runs (Leg.Pulse env) closingBeats (close env result) := by
  unfold close
  cases result with
  | ok _ =>
      refine Runs.leg.bind fun l => ?_
      split
      · exact .pure ()
      · exact pulses_finished env
  | error e =>
      refine ((does_recordFailure e).pulses env (by decide) (by decide)).bind fun _ => ?_
      refine Runs.leg.bind fun l => ?_
      split
      · exact .pure ()
      · exact pulses_notifyFailure env e

theorem pulses_settle (rethrow : Bool) (role : Role) (result : Except BusError Unit) :
    Runs (Leg.Pulse env) closingBeats (settle env rethrow role result) := by
  refine (Does.now.pulses env (by decide) (by decide)).bind fun _ => ?_
  refine (pulses_close env result).attempt.bind fun _ => ?_
  exact (does_conclude env rethrow role result).pulses env (by decide) (by decide)

theorem close_closed (result : Except BusError Unit) (l : Leg σ) :
    (close env result l).2.closed = true := by
  cases result with
  | ok _ =>
      rw [close_ok]
      split
      · next h => exact h
      · exact closed_notifyOf env l .exchange none rfl
  | error e =>
      rw [close_error]
      split
      · next h => exact h
      · exact closed_notifyOf env _ .exchange _ e.isTerminal_lifecycleState

theorem settle_closed (rethrow : Bool) (role : Role) (result : Except BusError Unit) (l : Leg σ) :
    (settle env rethrow role result l).2.closed = true := by
  rw [settle_eq, (does_conclude env rethrow role result _).closed (by decide)]
  exact close_closed env result _

/-- A course opens the leg and closes it. If no failure is recorded, all that closes it is the
notification that it has finished. -/
theorem course_reports (c : Command) (role : Role) (scope : Scope) (l : Leg σ) :
    let after := (c.course env role scope l).2
    ∃ m, Run (Leg.Pulse env) (openingBeats role scope) l m ∧
      Run (Leg.Pulse env) closingBeats m after ∧ after.closed = true ∧
      (after.failure = none →
        noticesOf after.trace = noticesOf m.trace ++ [m.event .exchange .finished none]) := by
  intro after
  obtain ⟨m, hopen, hclose, hend⟩ := reports_work env c.variant role scope l
  have hsettle := pulses_settle env c.rethrow role (work env c.variant role scope l).1
    (work env c.variant role scope l).2
  refine ⟨m, hopen, hclose.trans hsettle, settle_closed env _ _ _ _, fun hnone => ?_⟩
  have hfailure : (settle env c.rethrow role (work env c.variant role scope l).1
      (work env c.variant role scope l).2).2.failure = none := hnone
  obtain ⟨hok, hwork⟩ := (settle_failure_eq_none_iff env).mp hfailure
  have hfinished := hend hok hwork
  have hclosed : (work env c.variant role scope l).2.closed = true := by
    rw [hfinished]
    exact closed_notifyOf env m .exchange none rfl
  show noticesOf (settle env c.rethrow role (work env c.variant role scope l).1
    (work env c.variant role scope l).2).2.trace = _
  rw [hok, settle_of_closed env c.rethrow hclosed, hfinished]
  exact Leg.notices_notifyOf env m _ _ _

/-! ## What is reported as sent -/

theorem acceptedOf_eq (trace : List Entry) :
    acceptedOf trace = (callsOf passageKinds trace).filterMap Call.accepted? := by
  rw [acceptedOf, callsOf, List.filterMap_filter, List.filterMap_map]
  refine congrArg (List.filterMap · trace) (funext fun entry => ?_)
  show entry.call.accepted? =
    if decide (entry.call.kind ∈ passageKinds) = true then entry.call.accepted? else none
  cases h : entry.call.accepted? with
  | none => rw [ite_self]
  | some sent =>
      rcases entry.call.kind_of_handed? (entry.call.handed?_of_accepted? h) with hk | hk
      · simp [hk, passageKinds]
      · simp [hk, passageKinds]

/-- The transport has accepted the exchange of the command, as it was given or as the policy has
left it. -/
def OwnAccepted (role : Role) (scope : Scope) (e : Exchange) (trace : List Entry) : Prop :=
  ∃ sent ∈ acceptedOf trace,
    sent = e ∨ .policy e role scope ⟨sent, none⟩ ∈ callsOf [.policy] trace

/-- What is asked about a response hands nothing over. -/
theorem accepted?_of_judges {call : Call} (h : call.judges role scope = true) :
    call.accepted? = none := by
  cases call with
  | policy => rfl
  | _ => cases h

namespace Departure

variable {passage signals : List Call} {failure : Option BusError}

theorem accepted_length_le (h : Departure role scope e passage signals failure) :
    (passage.filterMap Call.accepted?).length ≤ 1 := by
  cases h with
  | marked _ _ call _ hp =>
      rw [hp]
      exact List.length_filterMap_le _ _
  | rejected _ _ _ hp =>
      rw [hp]
      exact Nat.zero_le 1
  | accepted _ e' call later _ hlater hp =>
      have hnone : later.filterMap Call.accepted? = [] :=
        List.filterMap_eq_nil_iff.mpr fun c hc => accepted?_of_judges (hlater c hc).2
      have hone := List.length_filterMap_le Call.accepted? [call]
      rw [hp]
      show (([call] ++ later).filterMap Call.accepted?).length ≤ 1
      rw [List.filterMap_append, hnone, List.append_nil]
      exact hone

/-- What has been accepted by some moment is the exchange of the command, and if it is not as it
was given, the policy had left it so by then. -/
theorem own_of_accepted {early late : List Call}
    (h : Departure role scope e (early ++ late) signals failure) {sent : Exchange} {call : Call}
    (hcall : call ∈ early) (hsent : call.accepted? = some sent) :
    sent = e ∨ .policy e role scope ⟨sent, none⟩ ∈ early := by
  have hhanded := call.handed?_of_accepted? hsent
  have hmem : call ∈ early ++ late := List.mem_append_left late hcall
  cases h with
  | marked _ _ call₀ hcall₀ hp =>
      rw [hp, List.mem_singleton] at hmem
      rw [hmem, hcall₀] at hhanded
      cases hhanded
      exact .inl rfl
  | rejected _ e' violation hp =>
      rw [hp, List.mem_singleton] at hmem
      rw [hmem] at hsent
      cases hsent
  | accepted _ e' call₀ later hcall₀ hlater hp =>
      right
      cases early with
      | nil => cases hcall
      | cons first rest =>
          obtain ⟨rfl, -⟩ := List.cons.inj hp
          rw [hp] at hmem
          rcases List.mem_cons.mp hmem with rfl | hmem
          · cases hsent
          · rcases List.mem_cons.mp hmem with rfl | hmem
            · rw [hcall₀] at hhanded
              cases hhanded
              exact List.mem_cons_self
            · rw [accepted?_of_judges (hlater call hmem).2] at hsent
              cases hsent

end Departure

/-! ## The notifications of an execution -/

section Course

variable (c) (role) (scope) (e) (bus : Bus σ) (supply : Supply)

theorem opening_sound : (c.opening role scope e bus supply).Sound :=
  ⟨rfl, Nat.le_refl 0, fun _ _ _ _ h => by simp [opening, begin] at h⟩

theorem openingBeats_opens : ∀ beat ∈ openingBeats role scope,
    beat ∉ [.finished, .aborted, .dropped] := by
  unfold openingBeats
  split <;> decide

theorem course_sound : (c.course env role scope (c.opening role scope e bus supply)).2.Sound := by
  obtain ⟨m, hopen, hclose, -, -⟩ :=
    course_reports env c role scope (c.opening role scope e bus supply)
  exact Leg.sound_of_run hclose (Leg.sound_of_run hopen (opening_sound c role scope e bus supply))

/-- The notifications open the leg and close it. -/
theorem course_shape :
    let after := (c.course env role scope (c.opening role scope e bus supply)).2
    ∃ progress ends, noticesOf after.trace = progress ++ ends ∧ Leg.Opens progress ∧ ends ≠ [] ∧
      Leg.Closes ends ∧
      (after.failure = none → ∃ n, ends = [n] ∧ n.state = .finished) := by
  intro after
  obtain ⟨m, hopen, hclose, hclosed, hend⟩ :=
    course_reports env c role scope (c.opening role scope e bus supply)
  have hsound := course_sound env c role scope e bus supply
  obtain ⟨progress, hprogress, hopens⟩ :=
    Leg.notices_of_opening (openingBeats_opens role scope) hopen
  obtain ⟨ends, hends, hcloses⟩ := Leg.notices_of_closing hclose
  have hnone : noticesOf (c.opening role scope e bus supply).trace = [] := rfl
  rw [hnone, List.nil_append] at hprogress
  rw [hprogress] at hends
  refine ⟨progress, ends, hends, hopens, ?_, hcloses, fun hfailure => ?_⟩
  · rintro rfl
    -- a leg without a terminal notification is not closed
    have hopened : progress.any (·.state.isTerminal) = false :=
      List.any_eq_false.mpr fun n hn => by simp [hopens n hn]
    rw [hsound.closed, hends, List.append_nil, hopened] at hclosed
    cases hclosed
  · have hlast := hend hfailure
    rw [hends, hprogress] at hlast
    exact ⟨_, List.append_cancel_left hlast, rfl⟩

/-- What is reported as sent is what leaves, and it is reported once. -/
theorem course_posts :
    let after := (c.course env role scope (c.opening role scope e bus supply)).2
    ((noticesOf after.trace).filter Event.isPost).length ≤ 1 ∧
      (bringsIn role scope = true → (noticesOf after.trace).filter Event.isPost = []) := by
  intro after
  obtain ⟨m, hopen, hclose, -, -⟩ :=
    course_reports env c role scope (c.opening role scope e bus supply)
  have hsound := course_sound env c role scope e bus supply
  cases hin : bringsIn role scope with
  | true =>
      have hnone : (noticesOf after.trace).filter Event.isPost = [] := by
        rw [openingBeats, if_pos hin] at hopen
        rw [Leg.posts_of_run hclose (by decide), Leg.posts_of_run hopen (by decide)]
        rfl
      exact ⟨by rw [hnone]; exact Nat.zero_le 1, fun _ => hnone⟩
  | false =>
      have hdeparture := departure_course env (c := c) (e := e) hin bus supply
      have hle := hdeparture.accepted_length_le
      rw [← acceptedOf_eq] at hle
      exact ⟨Nat.le_trans hsound.posts hle, fun h => by cases h⟩

/-- What is reported as sent has been accepted by then. -/
theorem course_warranted {before after : List Entry} {n : Event} {store : Store}
    (htrace : (c.course env role scope (c.opening role scope e bus supply)).2.trace =
      before ++ ⟨.notify n, store⟩ :: after) (hn : n.state = .netOutPost) :
    (n.kind = .exchange → OwnAccepted role scope e before) ∧
      (n.kind = .fault → FaultTaken before) := by
  have hsound := course_sound env c role scope e bus supply
  have hwarrant := hsound.warranted before n store after htrace hn
  refine ⟨fun hkind => ?_, fun hkind => by rw [hkind] at hwarrant; exact hwarrant⟩
  rw [hkind] at hwarrant
  cases hin : bringsIn role scope with
  | true =>
      -- what comes in is never reported as sent
      have hmem : n ∈ (noticesOf (c.course env role scope
          (c.opening role scope e bus supply)).2.trace).filter Event.isPost := by
        rw [htrace, List.mem_filter]
        refine ⟨?_, by simp [Event.isPost, hkind, hn]⟩
        rw [noticesOf_append]
        exact List.mem_append_right _ List.mem_cons_self
      rw [(course_posts env c role scope e bus supply).2 hin] at hmem
      cases hmem
  | false =>
      have hdeparture := departure_course env (c := c) (e := e) hin bus supply
      obtain ⟨sent, hsent⟩ := List.exists_mem_of_ne_nil _ hwarrant
      dsimp only at hdeparture
      rw [htrace, callsOf_append] at hdeparture
      have hcall := hsent
      rw [acceptedOf_eq] at hcall
      obtain ⟨call, hcall, haccepted⟩ := List.mem_filterMap.mp hcall
      refine ⟨sent, hsent, ?_⟩
      rcases hdeparture.own_of_accepted hcall haccepted with hgiven | hleft
      · exact .inl hgiven
      · exact .inr (mem_callsOf_of_kind [.policy] hleft (by simp [Call.kind]))

theorem course_balanced :
    (c.course env role scope (c.opening role scope e bus supply)).2.Balanced := by
  obtain ⟨m, hopen, hclose, -, -⟩ :=
    course_reports env c role scope (c.opening role scope e bus supply)
  have hstart : (c.opening role scope e bus supply).Balanced := rfl
  have hmid : m.Balanced := hopen.of_step (fun _ _ _ _ hs ha => hs.balanced ha) hstart
  exact hclose.of_step (fun _ _ _ _ hs ha => hs.balanced ha) hmid

end Course

/-- What an execution tells monitoring. Its notifications open the leg and close it, with at least
one terminal notification, the last of them about the exchange. A message is notified as coming in
whenever one is handed to the participant. The exchange is reported as sent at most once, after the
transport has accepted it, and a fault only after the transport has taken one. Without a recorded
failure there is one terminal notification, that the leg has finished, and an aborted leg means
that a failure is recorded. -/
theorem execute_notices (h : c.ready = .ok (role, scope, e)) (bus : Bus σ) (supply : Supply) :
    let x := c.execute env bus supply
    let notices := noticesOf x.trace
    (∃ progress ends, notices = progress ++ ends ∧ Leg.Opens progress ∧ ends ≠ [] ∧
      Leg.Closes ends) ∧
    (notices.filter (·.state = .appIn)).length = (callsOf [.handleMessage] x.trace).length ∧
    (notices.filter Event.isPost).length ≤ 1 ∧
    (∀ before n store after, x.trace = before ++ ⟨.notify n, store⟩ :: after →
      n.state = .netOutPost → (n.kind = .exchange → OwnAccepted role scope e before) ∧
        (n.kind = .fault → FaultTaken before)) ∧
    (x.command.failure = none →
      ∃ n, notices.filter (·.state.isTerminal) = [n] ∧ n.state = .finished) ∧
    ((∃ n ∈ notices, n.state.isAborted = true) → x.command.failure ≠ none) ∧
    (x.command.failed = true ↔ ∃ err, x.command.failure = some err) := by
  intro x notices
  have htrace : x.trace = (c.course env role scope (c.opening role scope e bus supply)).2.trace :=
    execute_trace env h bus supply
  have hfailure : x.command.failure =
      (c.course env role scope (c.opening role scope e bus supply)).2.failure :=
    execute_failure env h bus supply
  obtain ⟨progress, ends, hnotices, hopens, hne, hcloses, hend⟩ :=
    course_shape env c role scope e bus supply
  rw [← htrace] at hnotices
  rw [← hfailure] at hend
  refine ⟨⟨progress, ends, hnotices, hopens, hne, hcloses⟩, ?_, ?_, ?_, ?_, ?_, ?_⟩
  · show ((noticesOf x.trace).filter _).length = _
    rw [htrace]
    exact course_balanced env c role scope e bus supply
  · show ((noticesOf x.trace).filter _).length ≤ 1
    rw [htrace]
    exact (course_posts env c role scope e bus supply).1
  · intro before n store after hsplit
    rw [htrace] at hsplit
    exact course_warranted env c role scope e bus supply hsplit
  · intro hnone
    obtain ⟨n, rfl, hn⟩ := hend hnone
    have hopened : progress.filter (·.state.isTerminal) = [] :=
      List.filter_eq_nil_iff.mpr fun n hn => by simp [hopens n hn]
    refine ⟨n, ?_, hn⟩
    show (noticesOf x.trace).filter _ = [n]
    rw [hnotices, List.filter_append, hopened]
    simp [hn, LifecycleState.isTerminal]
  · rintro ⟨n, hn, haborted⟩ hnone
    obtain ⟨last, rfl, hlast⟩ := hend hnone
    have hmem : n ∈ progress ++ [last] := hnotices ▸ hn
    rcases List.mem_append.mp hmem with hn | hn
    · have hopened := hopens n hn
      simp [LifecycleState.isTerminal, haborted] at hopened
    · rw [List.mem_singleton.mp hn, hlast] at haborted
      cases haborted
  · rw [execute_failed env h bus supply, Option.isSome_iff_exists]

section Books

open Rehearsal

/-- A bookstore is out of the book. The order is reported as received and as handed to the
bookstore, then the fault as sent, and at last the leg as aborted. -/
theorem execute_notices_sold_out :
    let c : Command :=
      { variant := .callback, role := some .receiver, scope := some .request
        exchange := some reportedOrder, handler := some "stock" }
    let x := c.execute bookstore { parties := {} } .counting
    (noticesOf x.trace).map (fun n => (n.kind, n.state)) =
      [(.exchange, .netInPost), (.exchange, .appIn), (.fault, .netOutPost),
        (.exchange, .abortedApp)] ∧
    (∃ progress ends, noticesOf x.trace = progress ++ ends ∧ Leg.Opens progress ∧ ends ≠ [] ∧
      Leg.Closes ends) ∧
    ∀ before n store after, x.trace = before ++ ⟨.notify n, store⟩ :: after →
      n.state = .netOutPost → n.kind = .fault → FaultTaken before := by
  intro c x
  obtain ⟨hshape, -, -, hwarranted, -⟩ :=
    execute_notices bookstore (c := c) (e := reportedOrder) rfl { parties := {} } .counting
  exact ⟨rfl, hshape, fun before n store after hx hn => (hwarranted before n store after hx hn).2⟩

end Books

end ServiceBus.Command
