import ServiceBus.Proofs.Leg.IncomingResponse

set_option autoImplicit false

/-! # The signals of a leg

Two things are said of a piece of work about the transport. `Work.Settles`: it succeeds only on
a leg whose end the transport knows. `Work.Acknowledges`: on this leg it gives one signal, which
is an acknowledgement, and of the exchange as the leg then has it. Both are shown for a sequence
from its parts.

An incoming response is acknowledged if it is answered: if it is marked as failed or brings a
message (`acknowledges_incomingResponse`). If it is not, it fails before its acknowledgement
(`incomingResponse_of_not_answered`). -/

namespace ServiceBus

variable {σ : Type}

/-- A run without signals leaves the mark as it is. -/
theorem Leg.Steps.signalled_eq {acts : List Act} {l l' : Leg σ} (h : Steps acts l l')
    (hacts : ∀ kind ∈ signalKinds, .call kind ∉ acts) : l'.signalled = l.signalled := by
  refine Run.eq_of_step (·.signalled) (fun act hact a b hs => ?_) h
  cases hs with
  | signal _ c s hc => exact absurd hact (hacts _ hc)
  | _ => rfl

namespace Work

variable {α β : Type} {acts : List Act}

/-! ## Work that succeeds only with a signal -/

/-- The work succeeds only on a leg whose end has been signalled. -/
def Settles (x : Work σ α) : Prop := ∀ l a, (x l).1 = .ok a → (x l).2.signalled = true

namespace Settles

theorem fail (e : BusError) : Settles (Work.fail e : Work σ α) := by
  intro l a h
  cases h

theorem acknowledge (env : Environment σ) : Settles (Work.acknowledge env) :=
  fun l _ _ => acknowledge_signalled env l

/-- Enough that the last piece of work settles. -/
theorem bind_right {x : Work σ α} {f : α → Work σ β} (hf : ∀ a, Settles (f a)) :
    Settles (x >>= f) := by
  intro l b h
  cases hx : (x l).1 with
  | error e =>
      rw [bind_of_error hx] at h
      cases h
  | ok a =>
      rw [bind_of_ok hx] at h ⊢
      exact hf a _ b h

/-- Enough that the first piece of work settles: the mark is never taken back. -/
theorem bind_left (acts : List Act) {x : Work σ α} {f : α → Work σ β} (hx : Settles x)
    (hf : ∀ a, Does acts (f a)) : Settles (x >>= f) := by
  intro l b h
  cases hr : (x l).1 with
  | error e =>
      rw [bind_of_error hr] at h
      cases h
  | ok a =>
      have hm : (x l).2.signalled = true := hx l a hr
      rw [bind_of_ok hr]
      exact (hf a _).signalled hm

end Settles

/-! ## Work that acknowledges -/

/-- The work gives one signal on the leg `l`: it acknowledges the exchange as it leaves it. -/
def Acknowledges (x : Work σ α) (l : Leg σ) : Prop :=
  ∃ failure, callsOf signalKinds (x l).2.trace =
    callsOf signalKinds l.trace ++ [.acknowledge (x l).2.exchange failure]

namespace Acknowledges

theorem acknowledge (env : Environment σ) {l : Leg σ} (h : l.signalled = false) :
    Acknowledges (Work.acknowledge env) l := by
  have he : (Work.acknowledge env l).2.exchange = l.exchange :=
    (does_acknowledge env l).exchange (by decide)
  unfold Acknowledges
  rw [he]
  exact callsOf_acknowledge env h

/-- A course that begins on a leg with the same signals. -/
theorem of_course {x y : Work σ α} {l m : Leg σ} (h : x l = y m)
    (ht : callsOf signalKinds m.trace = callsOf signalKinds l.trace) (hy : Acknowledges y m) :
    Acknowledges x l := by
  unfold Acknowledges
  rw [h, ← ht]
  exact hy

/-- What follows an acknowledgement gives no signal and leaves the exchange. -/
theorem bind_left (acts : List Act) {x : Work σ α} {f : α → Work σ β} {l : Leg σ}
    (hx : Acknowledges x l) (hf : ∀ a, Does acts (f a))
    (hs : ∀ kind ∈ signalKinds, .call kind ∉ acts) (hr : .replace ∉ acts) :
    Acknowledges (x >>= f) l := by
  obtain ⟨failure, hx⟩ := hx
  refine ⟨failure, ?_⟩
  rw [bind_frame (fun m => callsOf signalKinds m.trace) (fun a m => (hf a m).callsOf hs),
    bind_frame (·.exchange) (fun a m => (hf a m).exchange hr)]
  exact hx

/-- What comes before an acknowledgement succeeds and gives no signal. -/
theorem bind_right {x : Work σ α} {f : α → Work σ β} {l : Leg σ} {a : α} (h : (x l).1 = .ok a)
    (hx : Does acts x) (hs : ∀ kind ∈ signalKinds, .call kind ∉ acts)
    (hf : Acknowledges (f a) (x l).2) : Acknowledges (x >>= f) l := by
  obtain ⟨failure, hf⟩ := hf
  refine ⟨failure, ?_⟩
  rw [bind_of_ok h, hf, (hx l).callsOf hs]

end Acknowledges

/-! ## Incoming responses -/

variable (env : Environment σ) {l : Leg σ}

/-- An acknowledgement with a notification before it and, after it, anything but a signal or a
change of the exchange. -/
theorem Acknowledges.of_notify {x : Work σ Unit} {f : Unit → Work σ α} {l : Leg σ}
    (hl : l.signalled = false) (hx : (x l).1 = .ok ()) (hd : Does noticeActs x)
    (hf : ∀ a, Does deliveryActs (f a)) :
    Acknowledges (x >>= fun _ => Work.acknowledge env >>= f) l := by
  have hm : (x l).2.signalled = false := by
    rw [(hd l).signalled_eq (by decide), hl]
  refine .bind_right hx hd (by decide) ?_
  exact (Acknowledges.acknowledge env hm).bind_left deliveryActs hf (by decide) (by decide)

theorem acknowledges_takeFailure (hl : l.signalled = false) (failure : BusError) :
    Acknowledges (takeFailure env failure) l := by
  refine .of_notify env hl (notifyFailure_fst env l failure) (does_notifyFailure env _) fun _ => ?_
  refine ((does_deliverErrorQuietly env failure).mono (by decide)).bind fun _ => ?_
  exact (does_recordFailure failure).mono (by decide)

theorem acknowledges_takeAnswer (hl : l.signalled = false) (message : Message) :
    Acknowledges (takeAnswer env message) l :=
  .of_notify env hl (notify_fst env l _) (does_notify env _) fun _ => does_tellAnswer env message

theorem acknowledges_failResponse (hl : l.signalled = false) (sync : Bool) (failure : BusError) :
    Acknowledges (failResponse env sync failure) l := by
  cases sync with
  | true =>
      exact .of_notify env hl (notifyFailure_fst env l failure) (does_notifyFailure env _)
        fun _ => .fail failure
  | false =>
      -- the participant learns of the failure before the acknowledgement
      have hn := does_notifyFailure env failure l
      have hq := does_deliverErrorQuietly env failure (notifyFailure env failure l).2
      refine .bind_right (notifyFailure_fst env l failure) (does_notifyFailure env _) (by decide) ?_
      refine .bind_right (deliverErrorQuietly_fst env _ failure)
        (does_deliverErrorQuietly env failure) (by decide) ?_
      refine (Acknowledges.acknowledge env ?_).bind_left [.record]
        (fun _ => does_recordFailure failure) (by decide) (by decide)
      rw [hq.signalled_eq (by decide), hn.signalled_eq (by decide), hl]

theorem deliverResponse_fst (remote : Option BusError) (message : Message) (l : Leg σ) :
    ∃ delivered, (deliverResponse env remote message l).1 = .ok delivered := by
  cases remote with
  | some e => exact ⟨_, rfl⟩
  | none =>
      show ∃ delivered, ((if l.exchange.fault.isSome = true then _ else _ : Work σ _) l).1 = _
      split
      · exact ⟨_, rfl⟩
      · exact ⟨_, rfl⟩

theorem acknowledges_concludeResponse (hl : l.signalled = false) (sync : Bool)
    (remote : Option BusError) (message : Message) :
    Acknowledges (concludeResponse env sync remote message) l := by
  cases sync with
  | true =>
      exact (Acknowledges.acknowledge env hl).bind_left tellCallerActs
        (fun _ => does_tellCaller env remote) (by decide) (by decide)
  | false =>
      obtain ⟨delivered, hd⟩ := deliverResponse_fst env remote message l
      have hdo := does_deliverResponse env remote message
      have hm : (deliverResponse env remote message l).2.signalled = false := by
        rw [(hdo l).signalled_eq (by decide), hl]
      refine .bind_right hd hdo (by decide) ?_
      refine (Acknowledges.acknowledge env hm).bind_left deliveryActs (fun _ => ?_)
        (by decide) (by decide)
      cases delivered with
      | error e => exact .fail e
      | ok _ => exact (does_notify env .finished).mono (by decide)

theorem acknowledges_takeMessage (hl : l.signalled = false) (sync : Bool) (message : Message) :
    Acknowledges (takeMessage env sync message) l := by
  cases hf : BusError.ofFault? message.body with
  | some remote =>
      rw [takeMessage_of_fault env sync hf]
      exact acknowledges_concludeResponse env hl sync _ message
  | none =>
      have hp := does_applyPolicy env l
      have hm : (applyPolicy env l).2.signalled = false := by
        rw [hp.signalled_eq (by decide), hl]
      have ht : callsOf signalKinds (applyPolicy env l).2.trace = callsOf signalKinds l.trace :=
        hp.callsOf (by decide)
      cases hv : (l.ruling env).violation with
      | some violation =>
          exact .of_course (takeMessage_of_rejected env sync hf hv) ht
            (acknowledges_failResponse env hm sync _)
      | none =>
          exact .of_course (takeMessage_of_accepted env sync hf hv) ht
            (acknowledges_concludeResponse env hm sync none message)

theorem acknowledges_openAnswer {failed : BusError → Work σ Unit} {brought : Message → Work σ Unit}
    (hf : ∀ e, Acknowledges (failed e) l) (hb : ∀ message, Acknowledges (brought message) l)
    (hscope : l.scope = .response) (h : l.exchange.answered = true) :
    Acknowledges (openAnswer failed brought) l := by
  cases he : l.exchange.isError with
  | true => exact .of_course (openAnswer_of_isError failed brought he) rfl (hf _)
  | false =>
      obtain ⟨message, hm⟩ : ∃ message, l.exchange.inbound l.scope = some message := by
        rw [hscope]
        exact Option.isSome_iff_exists.mp (by simpa [Exchange.answered, he] using h)
      exact .of_course (openAnswer_of_some failed brought he hm) rfl (hb message)

theorem acknowledges_incomingResponse (hl : l.signalled = false) (hscope : l.scope = .response)
    (h : l.exchange.answered = true) (variant : Variant) :
    Acknowledges (incomingResponse env variant) l := by
  have hfault : Acknowledges (takeFault env) l :=
    acknowledges_openAnswer (acknowledges_takeFailure env hl) (acknowledges_takeAnswer env hl)
      hscope h
  cases variant with
  | oneWay => exact hfault
  | callback => exact hfault
  | requestResponse sync =>
      have hgo := does_letGo sync l
      have hm : (letGo sync l).2.signalled = false := by rw [hgo.signalled_eq (by decide), hl]
      refine .bind_right (letGo_fst sync l) (does_letGo sync) (by decide) ?_
      refine acknowledges_openAnswer (acknowledges_failResponse env hm sync)
        (acknowledges_takeMessage env hm sync) ?_ ?_
      · rw [hgo.scope (by decide), hscope]
      · rw [hgo.exchange (by decide), h]

/-- An answer that says nothing fails before anybody is told. -/
theorem incomingResponse_of_not_answered (hscope : l.scope = .response)
    (h : l.exchange.answered = false) (variant : Variant) :
    ∃ m, Leg.Steps [.keep] l m ∧
      incomingResponse env variant l = (.error (noMessage l.exchange .response), m) := by
  obtain ⟨he, hm⟩ : l.exchange.isError = false ∧ l.exchange.inbound l.scope = none := by
    rw [hscope]
    simpa [Exchange.answered] using h
  have hfault : takeFault env l = (.error (noMessage l.exchange .response), l) := by
    rw [← hscope]
    exact openAnswer_of_none _ _ he hm
  cases variant with
  | oneWay => exact ⟨l, .refl l, hfault⟩
  | callback => exact ⟨l, .refl l, hfault⟩
  | requestResponse sync =>
      have hgo := does_letGo sync l
      have hx : (letGo sync l).2.exchange = l.exchange := hgo.exchange (by decide)
      have hc : (letGo sync l).2.scope = l.scope := hgo.scope (by decide)
      refine ⟨(letGo sync l).2, hgo, ?_⟩
      show takeResponse env sync l = _
      rw [takeResponse, bind_of_ok (letGo_fst sync l), openAnswer_of_none _ _ (by rw [hx, he])
        (by rw [hx, hc, hm]), hx, hc, hscope]

end Work

end ServiceBus
