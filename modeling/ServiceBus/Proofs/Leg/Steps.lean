import ServiceBus.Command
import ServiceBus.Proofs.Trace
import Mathlib.Logic.Relation

set_option autoImplicit false

/-! # The steps that work on a leg is made of

All work on a leg is made of a few kinds of steps (`Leg.Step`), which are named by acts
(`Act`): a call to one of the parties, or a change of one part of the leg. `Leg.Steps acts` is
a run of such steps, and `Work.Does acts` says of a piece of work that, on every leg, it is a
run of steps of the given acts. Runs are those of any labelled relation (`Run`, `Work.Runs`), so
that coarser steps make runs in the same way.

A run leaves alone what its acts do not change (`Leg.Steps.exchange`, `Leg.Steps.callsOf` and
their like). What every step keeps, every run keeps: the mark `signalled` is never taken back,
and it counts the signals that have been made (`Leg.Steps.signalled`,
`Leg.Steps.signalsCounted`); the mark `failed` goes with a failure to report
(`Leg.Steps.failureMarked`). -/

namespace ServiceBus

/-! ## Runs -/

/-- A run of steps with labels from a list. -/
def Run {ι α : Type} (R : ι → α → α → Prop) (labels : List ι) : α → α → Prop :=
  Relation.ReflTransGen fun a b => ∃ i ∈ labels, R i a b

namespace Run

variable {ι α : Type} {R : ι → α → α → Prop} {labels labels' : List ι} {a b c : α}

theorem refl (a : α) : Run R labels a a := Relation.ReflTransGen.refl

theorem trans (h : Run R labels a b) (h' : Run R labels b c) : Run R labels a c :=
  Relation.ReflTransGen.trans h h'

theorem single {i : ι} (h : R i a b) (hi : i ∈ labels) : Run R labels a b :=
  Relation.ReflTransGen.single ⟨i, hi, h⟩

theorem mono (h : Run R labels a b) (hsub : labels ⊆ labels') : Run R labels' a b :=
  Relation.ReflTransGen.mono (fun _ _ ⟨i, hi, hs⟩ => ⟨i, hsub hi, hs⟩) _ _ h

/-- What no step of a run changes, the run does not change. -/
theorem eq_of_step {β : Type} (f : α → β)
    (hstep : ∀ i ∈ labels, ∀ a b : α, R i a b → f b = f a) (h : Run R labels a b) :
    f b = f a := by
  induction h with
  | refl => rfl
  | tail _ hs ih =>
      obtain ⟨i, hi, hs⟩ := hs
      exact (hstep i hi _ _ hs).trans ih

/-- What every step of a run keeps, the run keeps. -/
theorem of_step {P : α → Prop} (hstep : ∀ i ∈ labels, ∀ a b : α, R i a b → P a → P b)
    (h : Run R labels a b) (hP : P a) : P b := by
  induction h with
  | refl => exact hP
  | tail _ hs ih =>
      obtain ⟨i, hi, hs⟩ := hs
      exact hstep i hi _ _ hs ih

end Run

/-- What a step on a leg does. -/
inductive Act where
  /-- A party is called. -/
  | call (kind : CallKind)
  /-- An identifier or a time is taken from the supply. -/
  | draw
  /-- The exchange is replaced. -/
  | replace
  /-- The participant's handler is looked up. -/
  | find
  /-- A failure is recorded. -/
  | record
  /-- The leg is marked as closed. -/
  | close
  /-- The store is changed. -/
  | keep
  /-- The leg moves on to the response. -/
  | respond
  deriving DecidableEq

namespace Leg

variable {σ : Type}

/-! ## The participant of a leg -/

/-- What the look-up of the participant's handler finds, and the cache afterwards. -/
def found (l : Leg σ) : Option HandlerName × HandlerCache :=
  HandlerCache.resolve l.bus.cache l.bus.registry
    ⟨l.role, l.exchange.serviceId, l.exchange.operation⟩

/-- The participant's handler: the one known already, or the one that is found. -/
def participant? (l : Leg σ) : Option HandlerName :=
  match l.handler with
  | some handler => some handler
  | none => l.found.1

/-! ## Steps -/

/-- The leg after a call that leaves the parties in the state `s`. -/
def called (l : Leg σ) (c : Call) (s : σ) : Leg σ :=
  { l with bus := { l.bus with parties := s }, trace := l.trace ++ [⟨c, l.bus.store⟩] }

/-- One step on a leg. A signal is given only on a leg without the mark, which it sets, and no
handler is told anything but the leg's own. -/
inductive Step : Act → Leg σ → Leg σ → Prop where
  | call (l : Leg σ) (c : Call) (s : σ) (h : c.kind ∉ signalKinds)
      (ht : ∀ handler, c.told? = some handler → l.handler = some handler) :
      Step (.call c.kind) l (l.called c s)
  | signal (l : Leg σ) (c : Call) (s : σ) (h : c.kind ∈ signalKinds) (hl : l.signalled = false) :
      Step (.call c.kind) l { l.called c s with signalled := true }
  | draw (l : Leg σ) (supply : Supply) : Step .draw l { l with supply := supply }
  | replace (l : Leg σ) (e : Exchange) : Step .replace l { l with exchange := e }
  | find (l : Leg σ) (h : l.handler = none) :
      Step .find l { l with handler := l.found.1, bus := { l.bus with cache := l.found.2 } }
  | record (l : Leg σ) (e : BusError) : Step .record l (l.failing e)
  | close (l : Leg σ) (b : Bool) : Step .close l { l with closed := l.closed || b }
  | keep (l : Leg σ) (store : Store) :
      Step .keep l { l with bus := { l.bus with store := store } }
  | respond (l : Leg σ) : Step .respond l { l with scope := .response }

/-- A run of steps of the given acts. -/
def Steps (acts : List Act) : Leg σ → Leg σ → Prop := Run Step acts

namespace Steps

open Run (eq_of_step of_step)

variable {acts acts' : List Act} {l l' l'' : Leg σ}

theorem refl (l : Leg σ) : Steps acts l l := Run.refl l

theorem trans (h : Steps acts l l') (h' : Steps acts l' l'') : Steps acts l l'' :=
  Run.trans h h'

theorem single {act : Act} (h : Step act l l') (hact : act ∈ acts) : Steps acts l l' :=
  Run.single h hact

theorem mono (h : Steps acts l l') (hsub : acts ⊆ acts') : Steps acts' l l' := Run.mono h hsub

/-! ## What a run leaves alone -/

theorem role (h : Steps acts l l') : l'.role = l.role :=
  eq_of_step (·.role) (fun _ _ _ _ hs => by cases hs <;> rfl) h

theorem scope (h : Steps acts l l') (hacts : .respond ∉ acts) : l'.scope = l.scope := by
  refine eq_of_step (·.scope) (fun act hact a b hs => ?_) h
  cases hs with
  | respond => exact absurd hact hacts
  | _ => rfl

theorem exchange (h : Steps acts l l') (hacts : .replace ∉ acts) : l'.exchange = l.exchange := by
  refine eq_of_step (·.exchange) (fun act hact a b hs => ?_) h
  cases hs with
  | replace => exact absurd hact hacts
  | _ => rfl

theorem handler (h : Steps acts l l') (hacts : .find ∉ acts) : l'.handler = l.handler := by
  refine eq_of_step (·.handler) (fun act hact a b hs => ?_) h
  cases hs with
  | find => exact absurd hact hacts
  | _ => rfl

theorem failure (h : Steps acts l l') (hacts : .record ∉ acts) : l'.failure = l.failure := by
  refine eq_of_step (·.failure) (fun act hact a b hs => ?_) h
  cases hs with
  | record => exact absurd hact hacts
  | _ => rfl

theorem closed (h : Steps acts l l') (hacts : .close ∉ acts) : l'.closed = l.closed := by
  refine eq_of_step (·.closed) (fun act hact a b hs => ?_) h
  cases hs with
  | close => exact absurd hact hacts
  | _ => rfl

theorem store (h : Steps acts l l') (hacts : .keep ∉ acts) : l'.bus.store = l.bus.store := by
  refine eq_of_step (·.bus.store) (fun act hact a b hs => ?_) h
  cases hs with
  | keep => exact absurd hact hacts
  | _ => rfl

theorem supply (h : Steps acts l l') (hacts : .draw ∉ acts) : l'.supply = l.supply := by
  refine eq_of_step (·.supply) (fun act hact a b hs => ?_) h
  cases hs with
  | draw => exact absurd hact hacts
  | _ => rfl

theorem parties (h : Steps acts l l') (hacts : ∀ kind, .call kind ∉ acts) :
    l'.bus.parties = l.bus.parties := by
  refine eq_of_step (·.bus.parties) (fun act hact a b hs => ?_) h
  cases hs with
  | call => exact absurd hact (hacts _)
  | signal => exact absurd hact (hacts _)
  | _ => rfl

/-- A run without calls of some kinds makes no difference to the calls of these kinds. -/
theorem callsOf {kinds : List CallKind} (h : Steps acts l l')
    (hacts : ∀ kind ∈ kinds, .call kind ∉ acts) :
    ServiceBus.callsOf kinds l'.trace = ServiceBus.callsOf kinds l.trace := by
  refine eq_of_step (fun l => ServiceBus.callsOf kinds l.trace) (fun act hact a b hs => ?_) h
  cases hs with
  | call c => exact callsOf_concat_of_not_mem (fun hc => hacts _ hc hact) _
  | signal c => exact callsOf_concat_of_not_mem (fun hc => hacts _ hc hact) _
  | _ => rfl

/-- A run without calls of some kinds makes no difference to their entries. -/
theorem entriesOf {kinds : List CallKind} (h : Steps acts l l')
    (hacts : ∀ kind ∈ kinds, .call kind ∉ acts) :
    ServiceBus.entriesOf kinds l'.trace = ServiceBus.entriesOf kinds l.trace := by
  refine eq_of_step (fun l => ServiceBus.entriesOf kinds l.trace) (fun act hact a b hs => ?_) h
  cases hs with
  | call c => exact entriesOf_concat_of_not_mem (fun hc => hacts _ hc hact) _
  | signal c => exact entriesOf_concat_of_not_mem (fun hc => hacts _ hc hact) _
  | _ => rfl

/-- The calls that a run adds come behind those made before. -/
theorem prefix_trace (h : Steps acts l l') : l.trace <+: l'.trace := by
  refine of_step (P := fun m => l.trace <+: m.trace) (fun act _ a b hs ha => ?_) h
    List.prefix_rfl
  cases hs with
  | call => exact ha.trans (List.prefix_append _ _)
  | signal => exact ha.trans (List.prefix_append _ _)
  | _ => exact ha

/-! ## The participant -/

/-- Looking the handler up leads to the same participant as before. -/
theorem participant?_find (l : Leg σ) (h : l.handler = none) :
    participant? { l with handler := l.found.1, bus := { l.bus with cache := l.found.2 } } =
      l.participant? := by
  cases hf : l.found.1 with
  | some handler => simp [participant?, h, hf]
  | none =>
      -- nothing is remembered of a look-up that fails, so the next one fails as well
      have hc : l.found.2 = l.bus.cache := resolve_snd_of_none hf
      simp only [participant?, h, hc]
      rfl

theorem participant? (h : Steps acts l l') (hacts : .replace ∉ acts) :
    l'.participant? = l.participant? := by
  refine eq_of_step Leg.participant? (fun act hact a b hs => ?_) h
  cases hs with
  | replace => exact absurd hact hacts
  | find _ hn => exact participant?_find _ hn
  | _ => rfl

/-! ## Signals -/

/-- The mark of a signal is never taken back. -/
theorem signalled (h : Steps acts l l') (hl : l.signalled = true) : l'.signalled = true := by
  refine of_step (P := fun m => m.signalled = true) (fun act _ a b hs ha => ?_) h hl
  cases hs with
  | signal => rfl
  | _ => exact ha

end Steps

/-- A step whose act is not among the loud ones is a run without any of them. -/
theorem Step.quiet_run {act : Act} {acts : List Act} {l l' : Leg σ} (h : Step act l l')
    (hact : act ∉ acts) (loud : Act) (hloud : loud ∈ acts) : Steps [act] l l' ∧ loud ∉ [act] := by
  refine ⟨.single h List.mem_cons_self, fun hm => hact ?_⟩
  rw [← List.mem_singleton.mp hm]
  exact hloud

/-- The signals that have been made are as many as the mark tells: one or none. -/
def SignalsCounted (l : Leg σ) : Prop :=
  (callsOf signalKinds l.trace).length = l.signalled.toNat

/-- A step counts its signal. -/
theorem Step.signalsCounted {act : Act} {l l' : Leg σ} (h : Step act l l')
    (hl : l.SignalsCounted) : l'.SignalsCounted := by
  unfold SignalsCounted at hl ⊢
  cases h with
  | call _ c s hc =>
      rw [called, callsOf_concat_of_not_mem hc]
      exact hl
  | signal _ c s hc hm =>
      rw [hm] at hl
      rw [called, callsOf_concat_of_mem hc, List.length_append, hl]
      rfl
  | _ => exact hl

theorem Steps.signalsCounted {acts : List Act} {l l' : Leg σ} (h : Steps acts l l')
    (hl : l.SignalsCounted) : l'.SignalsCounted :=
  Run.of_step (fun _ _ _ _ hs ha => hs.signalsCounted ha) h hl

/-- The leg is marked as failed if there is a failure to report, and only then. -/
def FailureMarked (l : Leg σ) : Prop := l.failed = l.failure.isSome

/-- A step that records a failure marks the leg, and no other step touches the mark or the
failure. -/
theorem Step.failureMarked {act : Act} {l l' : Leg σ} (h : Step act l l')
    (hl : l.FailureMarked) : l'.FailureMarked := by
  cases h with
  | record => rfl
  | _ => exact hl

theorem Steps.failureMarked {acts : List Act} {l l' : Leg σ} (h : Steps acts l l')
    (hl : l.FailureMarked) : l'.FailureMarked :=
  Run.of_step (fun _ _ _ _ hs ha => hs.failureMarked ha) h hl

end Leg

/-! ## Work as a run of steps -/

namespace Work

variable {σ α β : Type}

/-- On every leg, the piece of work is a run of steps with labels from a list. -/
def Runs {ι : Type} (R : ι → Leg σ → Leg σ → Prop) (labels : List ι) (x : Work σ α) : Prop :=
  ∀ l, Run R labels l (x l).2

namespace Runs

variable {ι : Type} {R : ι → Leg σ → Leg σ → Prop} {labels labels' : List ι}

theorem mono {x : Work σ α} (h : Runs R labels x) (hsub : labels ⊆ labels') : Runs R labels' x :=
  fun l => (h l).mono hsub

theorem pure (a : α) : Runs R labels (Pure.pure a : Work σ α) := fun l => .refl l

theorem fail (e : BusError) : Runs R labels (Work.fail e : Work σ α) := fun l => .refl l

theorem leg : Runs R labels (Work.leg : Work σ (Leg σ)) := fun l => .refl l

theorem exchange : Runs R labels (Work.exchange : Work σ Exchange) := fun l => .refl l

theorem check (e : Option BusError) : Runs R labels (Work.check e : Work σ Unit) := by
  cases e with
  | none => exact pure ()
  | some e => exact fail e

theorem bind {x : Work σ α} {f : α → Work σ β} (hx : Runs R labels x)
    (hf : ∀ a, Runs R labels (f a)) : Runs R labels (x >>= f) := by
  intro l
  rw [bind_apply]
  have h := hx l
  cases hr : x l with
  | mk r l' =>
      rw [hr] at h
      cases r with
      | ok a => exact h.trans (hf a l')
      | error e => exact h

theorem attempt {x : Work σ α} (hx : Runs R labels x) : Runs R labels (Work.attempt x) := hx

end Runs

/-- On every leg, the piece of work is a run of steps of the given acts. -/
def Does (acts : List Act) (x : Work σ α) : Prop := ∀ l, Leg.Steps acts l (x l).2

namespace Does

variable {acts acts' : List Act}

theorem mono {x : Work σ α} (h : Does acts x) (hsub : acts ⊆ acts') : Does acts' x :=
  Runs.mono h hsub

theorem pure (a : α) : Does acts (Pure.pure a : Work σ α) := Runs.pure a

theorem fail (e : BusError) : Does acts (Work.fail e : Work σ α) := Runs.fail e

theorem leg : Does acts (Work.leg : Work σ (Leg σ)) := Runs.leg

theorem exchange : Does acts (Work.exchange : Work σ Exchange) := Runs.exchange

theorem check (e : Option BusError) : Does acts (Work.check e : Work σ Unit) := Runs.check e

theorem bind {x : Work σ α} {f : α → Work σ β} (hx : Does acts x) (hf : ∀ a, Does acts (f a)) :
    Does acts (x >>= f) :=
  Runs.bind hx hf

/-- What follows may build on the result. -/
theorem bind_result {x : Work σ α} {f : α → Work σ β} (hx : Does acts x)
    (hf : ∀ a l, (x l).1 = .ok a → Leg.Steps acts (x l).2 (f a (x l).2).2) :
    Does acts (x >>= f) := by
  intro l
  rw [bind_apply]
  have hfirst := hx l
  have hthen := fun a => hf a l
  cases hr : x l with
  | mk r l' =>
      rw [hr] at hfirst hthen
      cases r with
      | ok a => exact hfirst.trans (hthen a rfl)
      | error e => exact hfirst

theorem attempt {x : Work σ α} (hx : Does acts x) : Does acts (Work.attempt x) := hx

theorem newId : Does [.draw] (Work.newId : Work σ Uuid) := fun l =>
  .single (.draw l _) List.mem_cons_self

theorem now : Does [.draw] (Work.now : Work σ Timestamp) := fun l =>
  .single (.draw l _) List.mem_cons_self

/-- A question that is neither a signal nor a callback. -/
theorem ask (kind : CallKind) {question : σ → α × σ} {call : α → Call}
    (h : ∀ a, (call a).kind = kind) (hk : kind ∉ signalKinds) (ht : kind ∉ callbackKinds) :
    Does [.call kind] (Work.ask question call) := by
  intro l
  have hc : (call (question l.bus.parties).1).kind = kind := h _
  have hnone := Call.told?_of_not_mem (c := call (question l.bus.parties).1) (by rw [hc]; exact ht)
  have hs := Leg.Step.call l (call (question l.bus.parties).1) (question l.bus.parties).2
    (by rw [hc]; exact hk) (fun other ho => by rw [hnone] at ho; cases ho)
  exact .single hs (by rw [hc]; exact List.mem_cons_self)

end Does

/-- A question to the participant of a leg. -/
theorem steps_ask {l : Leg σ} {handler : HandlerName} (hl : l.handler = some handler)
    (kind : CallKind) (question : σ → α × σ) (call : α → Call) (h : ∀ a, (call a).kind = kind)
    (hk : kind ∉ signalKinds) (ht : ∀ a other, (call a).told? = some other → other = handler) :
    Leg.Steps [.call kind] l (Work.ask question call l).2 := by
  have hc : (call (question l.bus.parties).1).kind = kind := h _
  have hs := Leg.Step.call l (call (question l.bus.parties).1) (question l.bus.parties).2
    (by rw [hc]; exact hk) (fun other ho => by rw [hl, ht _ other ho])
  exact .single hs (by rw [hc]; exact List.mem_cons_self)

end Work

end ServiceBus
