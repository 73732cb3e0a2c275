import ServiceBus.Proofs.Leg.Faults

set_option autoImplicit false

/-! # What a leg tells monitoring

Monitoring is notified along with what happens on a leg. The beats of a leg (`Leg.Pulse`) put the
two together: a message is handed to the participant with the notification that it comes in, and
an exchange is reported as sent when the transport has just accepted it; any number of steps
without a notification stand between.

Runs of beats keep the notifications sound (`Leg.Sound`): the mark `closed` tells whether there has
been a terminal one, and whatever is reported as sent was accepted before. Beats come in two
groups: those that open a leg add no terminal notification (`Leg.notices_of_opening`), and those
that close it only terminal ones, the last of them about the exchange itself
(`Leg.notices_of_closing`). -/

namespace ServiceBus

/-- The stage of a failure is an aborted one. -/
theorem BusError.isAborted_lifecycleState (e : BusError) : e.lifecycleState.isAborted = true := by
  cases e <;> rfl

theorem LifecycleState.ne_of_isAborted {state other : LifecycleState}
    (h : state.isAborted = true) (hother : other.isAborted = false) : state ≠ other := by
  rintro rfl
  rw [h] at hother
  cases hother

/-! ## Notifications that something was sent -/

/-- A fault has been handed to the transport and has come back without being marked as failed. -/
def FaultTaken (trace : List Entry) : Prop :=
  ∃ cause fault limit a, CarriesFault cause fault ∧
    .sendSync fault limit a ∈ callsOf [.sendSync] trace ∧
    a.failure? limit = none ∧ a.exchange.isError = false

/-- What has happened before something is reported as sent. -/
def Warrant (trace : List Entry) : NotificationKind → Prop
  | .exchange => acceptedOf trace ≠ []
  | .fault => FaultTaken trace

/-- Whatever is reported as sent has been accepted before. -/
def Warranted (trace : List Entry) : Prop :=
  ∀ before n store after, trace = before ++ ⟨.notify n, store⟩ :: after →
    n.state = .netOutPost → Warrant before n.kind

theorem Warranted.concat {t : List Entry} (h : Warranted t) {entry : Entry}
    (hentry : ∀ n, entry.call = .notify n → n.state = .netOutPost → Warrant t n.kind) :
    Warranted (t ++ [entry]) := by
  intro before n store after heq hn
  rcases split_concat heq with ⟨rest, ht, -⟩ | ⟨rfl, rfl, -⟩
  · exact h before n store rest ht hn
  · exact hentry n rfl hn

/-- Whether the notification reports the exchange itself as sent. -/
def Event.isPost (n : Event) : Bool := n.kind = .exchange && n.state = .netOutPost

/-! ## Beats -/

/-- What a beat of a leg is. -/
inductive Beat where
  /-- Nothing is notified, and no message handed over. -/
  | quiet
  /-- Something has come in from the transport. -/
  | received
  /-- A message comes in and is handed to the participant. -/
  | delivered
  /-- The transport has accepted the exchange. -/
  | posted
  /-- The transport has taken a fault. -/
  | faultPosted
  /-- The leg has come to its end. -/
  | finished
  /-- The leg is aborted. -/
  | aborted
  /-- A fault is dropped, and the leg is aborted. -/
  | dropped
  deriving DecidableEq

/-- The acts that a quiet beat is not of. -/
def noticedActs : List Act := [.call .notify, .call .handleMessage, .close]

variable {σ : Type} (env : Environment σ)

/-- One beat of a leg. -/
inductive Leg.Pulse : Beat → Leg σ → Leg σ → Prop where
  | quiet {act : Act} {l l' : Leg σ} (h : Step act l l') (hact : act ∉ noticedActs) :
      Pulse .quiet l l'
  | received (l : Leg σ) : Pulse .received l (Work.notify env .netInPost l).2
  | delivered (l : Leg σ) (c : Call) (s : σ) (hc : c.kind = .handleMessage) :
      Pulse .delivered l ((Work.notify env .appIn l).2.called c s)
  | posted (l : Leg σ) (c : Call) (s : σ) (sent returned : Exchange)
      (hc : c.accepted? = some sent) :
      Pulse .posted l (Work.notify env .netOutPost { l.called c s with exchange := returned }).2
  | faultPosted (l : Leg σ) (cause : BusError) (fault : Exchange) (limit : Nat) (a : Answer) (s : σ)
      (hf : CarriesFault cause fault) (hok : a.failure? limit = none)
      (he : a.exchange.isError = false) :
      Pulse .faultPosted l
        (Work.notifyOf env .fault .netOutPost none (l.called (.sendSync fault limit a) s)).2
  | finished (l : Leg σ) : Pulse .finished l (Work.notify env .finished l).2
  | aborted (l : Leg σ) (state : LifecycleState) (reason : Option String)
      (h : state.isAborted = true) :
      Pulse .aborted l (Work.notifyOf env .exchange state reason l).2
  | dropped (l : Leg σ) (reason : String) (e : BusError) :
      Pulse .dropped l (Work.notifyFailure env e (Work.dropFault env reason l).2).2

/-- The beats of what comes in, until the leg is closed. -/
def incomingBeats : List Beat := [.quiet, .received, .delivered, .faultPosted]

/-- The beats of what leaves, until the leg is closed. -/
def outgoingBeats : List Beat := [.quiet, .posted]

/-- The beats that close a leg. -/
def closingBeats : List Beat := [.quiet, .finished, .aborted, .dropped]

namespace Leg

variable {env} {l l' : Leg σ} {beat : Beat}

/-! ## Notifications and calls of a beat -/

theorem Step.notices {act : Act} (h : Step act l l') (hact : act ≠ .call .notify) :
    noticesOf l'.trace = noticesOf l.trace := by
  cases h with
  | call _ c s hc => exact noticesOf_concat_of_ne (fun hk => hact (congrArg Act.call hk)) _
  | signal _ c s hc _ => exact noticesOf_concat_of_ne (fun hk => hact (congrArg Act.call hk)) _
  | _ => rfl

theorem Steps.notices {acts : List Act} (h : Steps acts l l') (hacts : .call .notify ∉ acts) :
    noticesOf l'.trace = noticesOf l.trace :=
  Run.eq_of_step (fun l => noticesOf l.trace)
    (fun _ hact _ _ hs => hs.notices fun he => hacts (he ▸ hact)) h

/-- The notification about the leg as it stands. -/
def event (l : Leg σ) (kind : NotificationKind) (state : LifecycleState) (reason : Option String) :
    Event :=
  Event.ofExchange l.exchange l.role l.scope kind state reason l.supply.now.1

variable (env) in
@[simp] theorem notices_notifyOf (l : Leg σ) (kind : NotificationKind) (state : LifecycleState)
    (reason : Option String) :
    noticesOf (Work.notifyOf env kind state reason l).2.trace =
      noticesOf l.trace ++ [l.event kind state reason] := by
  rw [Work.trace_notifyOf, noticesOf_append]
  rfl

/-- A call that is no notification adds none. -/
theorem notices_called (l : Leg σ) {c : Call} (hc : c.kind ≠ .notify) (s : σ) :
    noticesOf (l.called c s).trace = noticesOf l.trace :=
  noticesOf_concat_of_ne hc l.trace

/-! ## Sound notifications -/

/-- The notifications of a leg are sound: the mark `closed` tells whether one of them is terminal,
and whatever is reported as sent has been accepted before, as often as it is reported. -/
structure Sound (l : Leg σ) : Prop where
  closed : l.closed = (noticesOf l.trace).any (·.state.isTerminal)
  posts : ((noticesOf l.trace).filter Event.isPost).length ≤ (acceptedOf l.trace).length
  warranted : Warranted l.trace

/-- A call that notifies nothing leaves the notifications sound. -/
theorem Sound.called (h : l.Sound) (c : Call) (s : σ) (hc : c.kind ≠ .notify) :
    (l.called c s).Sound := by
  refine ⟨?_, ?_, ?_⟩
  · rw [notices_called l hc]
    exact h.closed
  · rw [notices_called l hc]
    refine Nat.le_trans h.posts ?_
    simp [Leg.called]
  · refine h.warranted.concat fun n hn _ => ?_
    have hcall : c = .notify n := hn
    exact absurd (congrArg Call.kind hcall) hc

/-- A notification is sound if what it reports as sent has been accepted, and not been reported
before. -/
theorem Sound.notifyOf (h : l.Sound) (kind : NotificationKind) (state : LifecycleState)
    (reason : Option String)
    (hposts : kind = .exchange → state = .netOutPost →
      ((noticesOf l.trace).filter Event.isPost).length < (acceptedOf l.trace).length)
    (hwarrant : state = .netOutPost → Warrant l.trace kind) :
    (Work.notifyOf env kind state reason l).2.Sound := by
  refine ⟨?_, ?_, ?_⟩
  · rw [notices_notifyOf, List.any_append, ← h.closed]
    show (l.closed || state.isTerminal) = (l.closed || (state.isTerminal || false))
    rw [Bool.or_false]
  · have haccepted : acceptedOf (Work.notifyOf env kind state reason l).2.trace =
        acceptedOf l.trace := by
      rw [Work.trace_notifyOf, acceptedOf_append]
      exact List.append_nil _
    rw [notices_notifyOf, haccepted, List.filter_append, List.length_append]
    by_cases hpost : kind = .exchange ∧ state = .netOutPost
    · have hlt := hposts hpost.1 hpost.2
      have hone := List.length_filter_le Event.isPost [l.event kind state reason]
      rw [List.length_singleton] at hone
      omega
    · have hnone : [l.event kind state reason].filter Event.isPost = [] := by
        simpa [Event.isPost, Leg.event, Event.ofExchange] using hpost
      have hle := h.posts
      rw [hnone, List.length_nil]
      omega
  · rw [Work.trace_notifyOf]
    refine h.warranted.concat fun n hn hstate => ?_
    cases hn
    exact hwarrant hstate

/-- A beat leaves the notifications sound. -/
theorem Pulse.sound (h : Pulse env beat l l') (hl : l.Sound) : l'.Sound := by
  cases h with
  | quiet hs hact =>
      cases hs with
      | call _ c s hc => exact hl.called c s fun hk => hact (by rw [hk]; decide)
      | signal _ c s hc hm =>
          have hcalled := hl.called c s fun hk => hact (by rw [hk]; decide)
          exact ⟨hcalled.closed, hcalled.posts, hcalled.warranted⟩
      | close => exact absurd (by decide) hact
      | _ => exact ⟨hl.closed, hl.posts, hl.warranted⟩
  | received => exact hl.notifyOf _ _ _ (by simp) (by simp)
  | delivered _ c s hc => exact (hl.notifyOf _ _ _ (by simp) (by simp)).called c s (by simp [hc])
  | posted _ c s sent returned hc =>
      have hkind : c.kind ≠ .notify := c.kind_ne_of_accepted? hc (by decide)
      have hcalled := hl.called c s hkind
      have haccepted : acceptedOf (l.called c s).trace = acceptedOf l.trace ++ [sent] := by
        simp [Leg.called, acceptedOf, hc]
      have hm : Leg.Sound { l.called c s with exchange := returned } :=
        ⟨hcalled.closed, hcalled.posts, hcalled.warranted⟩
      refine hm.notifyOf _ _ _ (fun _ _ => ?_) (fun _ => ?_)
      · have hle := hl.posts
        simp only [notices_called l hkind, haccepted, List.length_append, List.length_singleton]
        omega
      · simp [Warrant, haccepted]
  | faultPosted _ cause fault limit a s hf hok he =>
      refine (hl.called _ s (by simp [Call.kind])).notifyOf _ _ _ (by simp) fun _ => ?_
      refine ⟨cause, fault, limit, a, hf, ?_, hok, he⟩
      rw [Leg.called, callsOf_concat_of_mem (by simp [Call.kind])]
      exact List.mem_append_right _ (List.mem_singleton_self _)
  | finished => exact hl.notifyOf _ _ _ (by simp) (by simp)
  | aborted _ state reason h =>
      have hne : state ≠ .netOutPost := LifecycleState.ne_of_isAborted h rfl
      exact hl.notifyOf _ _ _ (fun _ hp => absurd hp hne) fun hp => absurd hp hne
  | dropped _ reason e =>
      have hne : e.lifecycleState ≠ .netOutPost :=
        LifecycleState.ne_of_isAborted e.isAborted_lifecycleState rfl
      refine (hl.notifyOf _ _ _ (by simp) (by simp)).notifyOf _ _ _ (fun _ hp => absurd hp hne) ?_
      exact fun hp => absurd hp hne

theorem sound_of_run {beats : List Beat} (h : Run (Pulse env) beats l l') (hl : l.Sound) :
    l'.Sound :=
  h.of_step (fun _ _ _ _ hs ha => hs.sound ha) hl

/-! ## What is reported as sent -/

theorem posts_notifyOf (l : Leg σ) {kind : NotificationKind} {state : LifecycleState}
    (reason : Option String) (h : ¬ (kind = .exchange ∧ state = .netOutPost)) :
    (noticesOf (Work.notifyOf env kind state reason l).2.trace).filter Event.isPost =
      (noticesOf l.trace).filter Event.isPost := by
  have hnone : [l.event kind state reason].filter Event.isPost = [] := by
    simpa [Event.isPost, Leg.event, Event.ofExchange] using h
  rw [notices_notifyOf, List.filter_append, hnone, List.append_nil]

/-- Other beats do not report the exchange as sent. -/
theorem Pulse.posts (h : Pulse env beat l l') (hb : beat ≠ .posted) :
    (noticesOf l'.trace).filter Event.isPost = (noticesOf l.trace).filter Event.isPost := by
  cases h with
  | quiet hs hact =>
      obtain ⟨hrun, hnotify⟩ := hs.quiet_run hact (.call .notify) (by decide)
      rw [hrun.notices hnotify]
  | received => exact posts_notifyOf l _ (by simp)
  | delivered _ c s hc =>
      rw [notices_called _ (by simp [hc])]
      exact posts_notifyOf l _ (by simp)
  | posted => exact absurd rfl hb
  | faultPosted _ cause fault limit a s =>
      rw [← notices_called l (c := .sendSync fault limit a) (by simp [Call.kind]) s]
      exact posts_notifyOf _ _ (by simp)
  | finished => exact posts_notifyOf l _ (by simp)
  | aborted _ state reason h =>
      exact posts_notifyOf l _ fun hp => LifecycleState.ne_of_isAborted h rfl hp.2
  | dropped _ reason e =>
      have hdrop : (noticesOf (Work.dropFault env reason l).2.trace).filter Event.isPost =
          (noticesOf l.trace).filter Event.isPost := posts_notifyOf l _ (by simp)
      rw [← hdrop]
      exact posts_notifyOf _ _ fun hp =>
        LifecycleState.ne_of_isAborted e.isAborted_lifecycleState rfl hp.2

theorem posts_of_run {beats : List Beat} (h : Run (Pulse env) beats l l') (hb : .posted ∉ beats) :
    (noticesOf l'.trace).filter Event.isPost = (noticesOf l.trace).filter Event.isPost :=
  h.eq_of_step (fun l => (noticesOf l.trace).filter Event.isPost)
    fun _ hi _ _ hs => hs.posts fun he => hb (he ▸ hi)

/-! ## Messages that come in -/

/-- Messages have been notified as coming in as often as one was handed to the participant. -/
def Balanced (l : Leg σ) : Prop :=
  ((noticesOf l.trace).filter (·.state = .appIn)).length = (callsOf [.handleMessage] l.trace).length

theorem Balanced.called (h : l.Balanced) (c : Call) (s : σ) (hn : c.kind ≠ .notify)
    (hm : c.kind ≠ .handleMessage) : (l.called c s).Balanced := by
  unfold Balanced
  rw [notices_called l hn, Leg.called, callsOf_concat_of_not_mem (by simpa using hm)]
  exact h

theorem Balanced.notifyOf (h : l.Balanced) (kind : NotificationKind) {state : LifecycleState}
    (reason : Option String) (hs : state ≠ .appIn) :
    (Work.notifyOf env kind state reason l).2.Balanced := by
  have hnone : [l.event kind state reason].filter (·.state = .appIn) = [] := by
    simpa [Leg.event, Event.ofExchange] using hs
  have hcalls : callsOf [.handleMessage] (Work.notifyOf env kind state reason l).2.trace =
      callsOf [.handleMessage] l.trace :=
    (Work.does_notifyOf env kind state reason l).callsOf (by decide)
  unfold Balanced
  rw [notices_notifyOf, hcalls, List.filter_append, hnone, List.append_nil]
  exact h

theorem Pulse.balanced (h : Pulse env beat l l') (hl : l.Balanced) : l'.Balanced := by
  cases h with
  | quiet hs hact =>
      obtain ⟨hrun, hnotify⟩ := hs.quiet_run hact (.call .notify) (by decide)
      have hmessage := (hs.quiet_run hact (.call .handleMessage) (by decide)).2
      have hnotices := hrun.notices hnotify
      have hcalls : callsOf [.handleMessage] l'.trace = callsOf [.handleMessage] l.trace :=
        hrun.callsOf (by simpa using hmessage)
      unfold Balanced
      rw [hnotices, hcalls]
      exact hl
  | received => exact hl.notifyOf _ _ (by decide)
  | delivered _ c s hc =>
      -- one notification, and one call
      have hcalls : callsOf [.handleMessage] (Work.notify env .appIn l).2.trace =
          callsOf [.handleMessage] l.trace :=
        (Work.does_notify env .appIn l).callsOf (by decide)
      unfold Balanced at hl ⊢
      rw [notices_called _ (by simp [hc]), Leg.called, callsOf_concat_of_mem (by simp [hc]), hcalls,
        Work.notify, notices_notifyOf, List.filter_append, List.length_append,
        List.length_append, hl]
      rfl
  | posted _ c s sent returned hc =>
      have hm : Leg.Balanced { l.called c s with exchange := returned } :=
        hl.called c s (c.kind_ne_of_accepted? hc (by decide))
          (c.kind_ne_of_accepted? hc (by decide))
      exact hm.notifyOf _ _ (by decide)
  | faultPosted _ cause fault limit a s =>
      exact (hl.called _ s (by simp [Call.kind]) (by simp [Call.kind])).notifyOf _ _ (by decide)
  | finished => exact hl.notifyOf _ _ (by decide)
  | aborted _ state reason h =>
      exact hl.notifyOf _ _ (LifecycleState.ne_of_isAborted h rfl)
  | dropped _ reason e =>
      exact (hl.notifyOf _ _ (by decide)).notifyOf _ _
        (LifecycleState.ne_of_isAborted e.isAborted_lifecycleState rfl)

/-! ## Opening and closing -/

/-- None of the notifications is terminal. -/
def Opens (notices : List Event) : Prop := ∀ n ∈ notices, n.state.isTerminal = false

/-- All of the notifications are terminal, and the last one is about the exchange itself. -/
def Closes (notices : List Event) : Prop :=
  (∀ n ∈ notices, n.state.isTerminal = true) ∧
    ∀ last, notices.getLast? = some last → last.kind = .exchange

theorem Opens.nil : Opens [] := by simp [Opens]

theorem Opens.append {a b : List Event} (ha : Opens a) (hb : Opens b) : Opens (a ++ b) := by
  intro n hn
  rcases List.mem_append.mp hn with hn | hn
  · exact ha n hn
  · exact hb n hn

theorem Closes.nil : Closes [] := by simp [Closes]

theorem Closes.append {a b : List Event} (ha : Closes a) (hb : Closes b) : Closes (a ++ b) := by
  refine ⟨fun n hn => ?_, fun last hlast => ?_⟩
  · rcases List.mem_append.mp hn with hn | hn
    · exact ha.1 n hn
    · exact hb.1 n hn
  · rw [List.getLast?_append] at hlast
    cases hb' : b.getLast? with
    | some n =>
        rw [hb'] at hlast
        cases hlast
        exact hb.2 _ hb'
    | none =>
        rw [hb'] at hlast
        exact ha.2 last hlast

/-- Before a last notification about the exchange there may be others. -/
theorem Closes.event (l : Leg σ) {state : LifecycleState} (reason : Option String)
    (h : state.isTerminal = true) {before : List Event}
    (hb : ∀ n ∈ before, n.state.isTerminal = true) :
    Closes (before ++ [l.event .exchange state reason]) := by
  refine ⟨fun n hn => ?_, fun last hlast => ?_⟩
  · rcases List.mem_append.mp hn with hn | hn
    · exact hb n hn
    · rw [List.mem_singleton.mp hn]
      exact h
  · rw [List.getLast?_concat] at hlast
    cases hlast
    rfl

/-- A notification that is not terminal adds to those that open the leg. -/
theorem opens_notifyOf (l : Leg σ) (kind : NotificationKind) {state : LifecycleState}
    (reason : Option String) (h : state.isTerminal = false) :
    ∃ added, noticesOf (Work.notifyOf env kind state reason l).2.trace =
      noticesOf l.trace ++ added ∧ Opens added := by
  refine ⟨[l.event kind state reason], notices_notifyOf env l _ _ _, fun n hn => ?_⟩
  rw [List.mem_singleton.mp hn]
  exact h

theorem Pulse.opens (h : Pulse env beat l l') (hb : beat ∉ [.finished, .aborted, .dropped]) :
    ∃ added, noticesOf l'.trace = noticesOf l.trace ++ added ∧ Opens added := by
  cases h with
  | quiet hs hact =>
      obtain ⟨hrun, hnotify⟩ := hs.quiet_run hact (.call .notify) (by decide)
      exact ⟨[], by rw [hrun.notices hnotify, List.append_nil], .nil⟩
  | received => exact opens_notifyOf l _ _ rfl
  | delivered _ c s hc =>
      rw [notices_called _ (by simp [hc])]
      exact opens_notifyOf l _ _ rfl
  | posted _ c s sent returned hc =>
      rw [← notices_called l (c.kind_ne_of_accepted? hc (by decide)) s]
      exact opens_notifyOf { l.called c s with exchange := returned } _ _ rfl
  | faultPosted _ cause fault limit a s =>
      rw [← notices_called l (c := .sendSync fault limit a) (by simp [Call.kind]) s]
      exact opens_notifyOf _ _ _ rfl
  | finished => exact absurd (by decide) hb
  | aborted => exact absurd (by decide) hb
  | dropped => exact absurd (by decide) hb

theorem Pulse.closes (h : Pulse env beat l l') (hb : beat ∈ closingBeats) :
    ∃ added, noticesOf l'.trace = noticesOf l.trace ++ added ∧ Closes added := by
  have hnone : ∀ n ∈ ([] : List Event), n.state.isTerminal = true := by simp
  cases h with
  | quiet hs hact =>
      obtain ⟨hrun, hnotify⟩ := hs.quiet_run hact (.call .notify) (by decide)
      exact ⟨[], by rw [hrun.notices hnotify, List.append_nil], .nil⟩
  | finished => exact ⟨_, notices_notifyOf env l _ _ _, .event l _ rfl hnone⟩
  | aborted _ state reason h =>
      have hterminal : state.isTerminal = true := by simp [LifecycleState.isTerminal, h]
      exact ⟨_, notices_notifyOf env l _ _ _, .event l _ hterminal hnone⟩
  | dropped _ reason e =>
      let drop := l.event .fault .abortedApp (some ("fault dropped: " ++ reason))
      have hdrop : noticesOf (Work.dropFault env reason l).2.trace = noticesOf l.trace ++ [drop] :=
        notices_notifyOf env l _ _ _
      have hterminal : ∀ n ∈ [drop], n.state.isTerminal = true := by
        intro n hn
        rw [List.mem_singleton.mp hn]
        rfl
      refine ⟨_, ?_, .event (Work.dropFault env reason l).2 (some e.reason)
        e.isTerminal_lifecycleState hterminal⟩
      rw [← List.append_assoc, ← hdrop]
      exact notices_notifyOf env _ _ _ _
  | received => exact absurd hb (by decide)
  | delivered => exact absurd hb (by decide)
  | posted => exact absurd hb (by decide)
  | faultPosted => exact absurd hb (by decide)

/-- What each beat of a run adds in some way, the run adds in this way. -/
theorem notices_of_run {P : List Event → Prop} (hnil : P [])
    (happend : ∀ {a b}, P a → P b → P (a ++ b)) {beats : List Beat}
    (hstep : ∀ beat ∈ beats, ∀ a b : Leg σ, Pulse env beat a b →
      ∃ added, noticesOf b.trace = noticesOf a.trace ++ added ∧ P added)
    (h : Run (Pulse env) beats l l') :
    ∃ added, noticesOf l'.trace = noticesOf l.trace ++ added ∧ P added := by
  refine h.of_step (P := fun m => ∃ added, noticesOf m.trace = noticesOf l.trace ++ added ∧ P added)
    (fun beat hbeat a b hs ha => ?_) ⟨[], by rw [List.append_nil], hnil⟩
  obtain ⟨before, hbefore, hp⟩ := ha
  obtain ⟨added, hadded, hq⟩ := hstep beat hbeat a b hs
  exact ⟨before ++ added, by rw [hadded, hbefore, List.append_assoc], happend hp hq⟩

/-- The beats until a leg is closed add no terminal notification. -/
theorem notices_of_opening {beats : List Beat}
    (hbeats : ∀ beat ∈ beats, beat ∉ [.finished, .aborted, .dropped])
    (h : Run (Pulse env) beats l l') :
    ∃ added, noticesOf l'.trace = noticesOf l.trace ++ added ∧ Opens added :=
  notices_of_run .nil .append (fun _ hbeat _ _ hs => hs.opens (hbeats _ hbeat)) h

/-- The beats that close a leg add only terminal notifications, the last of them about the
exchange itself. -/
theorem notices_of_closing (h : Run (Pulse env) closingBeats l l') :
    ∃ added, noticesOf l'.trace = noticesOf l.trace ++ added ∧ Closes added :=
  notices_of_run .nil .append (fun _ hbeat _ _ hs => hs.closes hbeat) h

end Leg

end ServiceBus
