import Mathlib.Data.List.Forall2
import ServiceBus.Proofs.Command.Alike
import ServiceBus.Proofs.Command.Notices

set_option autoImplicit false

/-! # The life of a command

A command may be set up, executed, changed and executed again, in any order. `history` tells of
each such action what it found and what came of it.

At most one of the executions does anything. One before it is rejected because something is
missing, and the command can still be used; one after it is rejected because the command has been
executed (`history_single_use`). So a command is worth one signal to the transport in its whole
life, and whether the transport takes the signal makes no difference to anything else. -/

namespace ServiceBus.Command

variable {σ σ' : Type}

/-! ## Histories -/

/-- Something that is done with a command. -/
inductive Action where
  | set (setting : Setting)
  | execute
  deriving DecidableEq

/-- What comes of an action. Setting something concerns nobody but the command. -/
def perform (env : Environment σ) (c : Command) (bus : Bus σ) (supply : Supply) :
    Action → Execution σ Unit
  | .set setting => { result := .ok (), command := c.set setting, bus := bus, supply := supply }
  | .execute => c.execute env bus supply

/-- An action in the life of a command: what it finds, and what comes of it. -/
structure Moment (σ : Type) where
  action : Action
  command : Command
  bus : Bus σ
  supply : Supply
  outcome : Execution σ Unit

/-- The moment in which the action is done with the command. -/
def moment (env : Environment σ) (c : Command) (bus : Bus σ) (supply : Supply) (action : Action) :
    Moment σ :=
  ⟨action, c, bus, supply, c.perform env bus supply action⟩

/-- What comes of a list of actions, each done with what the one before it has left. -/
def history (env : Environment σ) : List Action → Command → Bus σ → Supply → List (Moment σ)
  | [], _, _, _ => []
  | action :: actions, c, bus, supply =>
      let m := moment env c bus supply action
      m :: history env actions m.outcome.command m.outcome.bus m.outcome.supply

/-- The moments of a history come about one like the other. -/
theorem eq_moment_of_mem {env : Environment σ} {m : Moment σ} {actions : List Action}
    {c : Command} {bus : Bus σ} {supply : Supply} (h : m ∈ history env actions c bus supply) :
    m = moment env m.command m.bus m.supply m.action := by
  induction actions generalizing c bus supply with
  | nil => cases h
  | cons action actions ih =>
      rcases List.mem_cons.mp h with rfl | hrest
      · rfl
      · exact ih hrest

namespace Moment

/-- Somebody has been called, or something that commands share has changed. -/
def Effective (m : Moment σ) : Prop := m.outcome.trace ≠ [] ∨ m.outcome.bus ≠ m.bus

/-- The action fails for this reason, calls nobody and changes nothing. -/
structure Rejected (m : Moment σ) (reason : String) : Prop where
  result : m.outcome.result = .error (.configuration reason)
  command : m.outcome.command = m.command
  bus : m.outcome.bus = m.bus
  supply : m.outcome.supply = m.supply
  trace : m.outcome.trace = []

theorem Rejected.not_effective {m : Moment σ} {reason : String} (h : m.Rejected reason) :
    ¬ m.Effective := by
  rintro (htrace | hbus)
  · exact htrace h.trace
  · exact hbus h.bus

/-- The same action finds the same and comes to the same, but for the parties, which are related,
and for the failures to take signals. -/
structure Alike (R : σ → σ' → Prop) (m : Moment σ) (m' : Moment σ') : Prop where
  action : m'.action = m.action
  command : m'.command = m.command
  bus : m.bus.Alike R m'.bus
  supply : m'.supply = m.supply
  outcome : m.outcome.Alike R m'.outcome

end Moment

/-! ## What a command lacks -/

/-- The command lacks something that an execution needs. -/
def Incomplete (c : Command) : Prop := c.role = none ∨ c.scope = none ∨ c.exchange = none

/-- Why a command is not executed again. -/
def alreadyExecuted : String := "Command has already been executed"

theorem ready_of_executed {c : Command} (h : c.executed = true) :
    c.ready = .error (.configuration alreadyExecuted) := by
  rw [ready, if_pos h]
  rfl

theorem not_executed_of_ready {c : Command} {role : Role} {scope : Scope} {e : Exchange}
    (h : c.ready = .ok (role, scope, e)) : c.executed = false := by
  cases hc : c.executed with
  | false => rfl
  | true =>
      rw [ready_of_executed hc] at h
      cases h

theorem ready_of_incomplete {c : Command} (h : c.Incomplete) :
    ∃ reason, c.ready = .error (.configuration reason) := by
  unfold ready
  split
  · exact ⟨_, rfl⟩
  · split
    · exact ⟨_, rfl⟩
    · exact ⟨_, rfl⟩
    · exact ⟨_, rfl⟩
    · next hrole hscope hexchange => simp [Incomplete, hrole, hscope, hexchange] at h

theorem ready_of_complete {c : Command} (hc : c.executed = false) (h : ¬ c.Incomplete) :
    ∃ role scope e, c.ready = .ok (role, scope, e) := by
  simp only [Incomplete, not_or] at h
  obtain ⟨hrole, hscope, hexchange⟩ := h
  obtain ⟨role, hrole⟩ := Option.ne_none_iff_exists'.mp hrole
  obtain ⟨scope, hscope⟩ := Option.ne_none_iff_exists'.mp hscope
  obtain ⟨e, hexchange⟩ := Option.ne_none_iff_exists'.mp hexchange
  refine ⟨role, scope, e, ?_⟩
  simp [ready, hc, hrole, hscope, hexchange]

/-! ## One action -/

section Step

variable (env : Environment σ) (c : Command) (bus : Bus σ) (supply : Supply)

theorem not_effective_set (setting : Setting) :
    ¬ (moment env c bus supply (.set setting)).Effective := by
  rintro (htrace | hbus)
  · exact htrace rfl
  · exact hbus rfl

variable {c}

theorem rejected_of_not_ready {reason : String} (h : c.ready = .error (.configuration reason)) :
    (moment env c bus supply .execute).Rejected reason := by
  have hx := execute_of_not_ready env h bus supply
  exact ⟨congrArg Execution.result hx, congrArg Execution.command hx, congrArg Execution.bus hx,
    congrArg Execution.supply hx, congrArg Execution.trace hx⟩

/-- Whatever becomes of the leg, its end is notified. -/
theorem effective_of_ready {role : Role} {scope : Scope} {e : Exchange}
    (h : c.ready = .ok (role, scope, e)) : (moment env c bus supply .execute).Effective := by
  obtain ⟨progress, ends, hnotices, -, hne, -⟩ := course_shape env c role scope e bus supply
  left
  show (c.execute env bus supply).trace ≠ []
  rw [execute_trace env h]
  intro hnil
  rw [hnil] at hnotices
  exact hne (List.append_eq_nil_iff.mp hnotices.symm).2

/-- A command counts as executed from the action on that has done something. -/
theorem executed_of_effective {action : Action}
    (h : (moment env c bus supply action).Effective) :
    (moment env c bus supply action).outcome.command.executed = true := by
  cases action with
  | set setting => exact absurd h (not_effective_set env c bus supply setting)
  | execute =>
      cases hready : c.ready with
      | ok ready =>
          obtain ⟨role, scope, e⟩ := ready
          show (c.execute env bus supply).command.executed = true
          rw [execute_command env hready]
          rfl
      | error err =>
          have hx := execute_of_not_ready env hready bus supply
          rcases h with htrace | hbus
          · exact absurd (congrArg Execution.trace hx) htrace
          · exact absurd (congrArg Execution.bus hx) hbus

/-- It stays executed, and nothing more is done with it. -/
theorem idle_of_executed (h : c.executed = true) (action : Action) :
    let m := moment env c bus supply action
    m.outcome.command.executed = true ∧ ¬ m.Effective ∧
      (action = .execute → m.Rejected alreadyExecuted) := by
  cases action with
  | set setting =>
      refine ⟨?_, not_effective_set env c bus supply setting, fun hset => by cases hset⟩
      show (c.set setting).executed = true
      cases setting <;> exact h
  | execute =>
      have hrejected := rejected_of_not_ready env bus supply (ready_of_executed h)
      exact ⟨by rw [hrejected.command]; exact h, hrejected.not_effective, fun _ => hrejected⟩

end Step

/-! ## Signals -/

/-- How many signals a command is still worth. -/
def signalsLeft (c : Command) : Nat := if c.executed then 0 else 1

/-- What an action signals is no longer left. -/
theorem signals_moment (env : Environment σ) (c : Command) (bus : Bus σ) (supply : Supply)
    (action : Action) :
    let x := (moment env c bus supply action).outcome
    (callsOf signalKinds x.trace).length + x.command.signalsLeft ≤ c.signalsLeft := by
  cases action with
  | set setting =>
      show 0 + (c.set setting).signalsLeft ≤ c.signalsLeft
      rw [Nat.zero_add]
      cases setting <;> exact Nat.le_refl _
  | execute =>
      show (callsOf signalKinds (c.execute env bus supply).trace).length +
        (c.execute env bus supply).command.signalsLeft ≤ _
      cases hready : c.ready with
      | error err =>
          rw [execute_of_not_ready env hready]
          exact Nat.le_of_eq (Nat.zero_add _)
      | ok ready =>
          obtain ⟨role, scope, e⟩ := ready
          have hcount : _ = _ := course_signalsCounted env c role scope e bus supply
          rw [execute_trace env hready, execute_command env hready, hcount]
          rw [signalsLeft, signalsLeft, not_executed_of_ready hready]
          exact Bool.toNat_le _

/-- A history has no more signals than the command was worth at its beginning. -/
theorem signals_history (env : Environment σ) (actions : List Action) (c : Command) (bus : Bus σ)
    (supply : Supply) :
    (callsOf signalKinds ((history env actions c bus supply).flatMap (·.outcome.trace))).length ≤
      c.signalsLeft := by
  induction actions generalizing c bus supply with
  | nil => exact Nat.zero_le _
  | cons action actions ih =>
      have hfirst := signals_moment env c bus supply action
      have hrest := ih (moment env c bus supply action).outcome.command
        (moment env c bus supply action).outcome.bus
        (moment env c bus supply action).outcome.supply
      rw [history, List.flatMap_cons, callsOf_append, List.length_append]
      exact Nat.le_trans (Nat.add_le_add_left hrest _) hfirst

/-! ## Single use -/

/-- What makes a history that of a command for single use. -/
structure SingleUse (moments : List (Moment σ)) : Prop where
  /-- Only executions do anything. -/
  executes : ∀ m ∈ moments, m.Effective → m.action = .execute
  /-- An execution does something if the command lacks nothing and has not been executed. -/
  effective : ∀ m ∈ moments, m.action = .execute → m.command.executed = false →
    ¬ m.command.Incomplete → m.Effective
  /-- An execution is rejected if the command lacks something. -/
  incomplete : ∀ m ∈ moments, m.action = .execute → m.command.Incomplete →
    ∃ reason, m.Rejected reason
  /-- After an execution that has done something, nothing does, and executions are rejected. -/
  once : moments.Pairwise fun m later => m.Effective →
    ¬ later.Effective ∧ (later.action = .execute → later.Rejected alreadyExecuted)
  /-- The transport gets at most one signal. -/
  signals : (callsOf signalKinds (moments.flatMap (·.outcome.trace))).length ≤ 1

/-- Nothing is done with a command that has been executed. -/
theorem idle_history_of_executed (env : Environment σ) {c : Command} (h : c.executed = true)
    (actions : List Action) (bus : Bus σ) (supply : Supply) :
    ∀ m ∈ history env actions c bus supply,
      ¬ m.Effective ∧ (m.action = .execute → m.Rejected alreadyExecuted) := by
  induction actions generalizing c bus supply with
  | nil => intro m hm; cases hm
  | cons action actions ih =>
      obtain ⟨hexecuted, hidle⟩ := idle_of_executed env bus supply h action
      intro m hm
      rcases List.mem_cons.mp hm with rfl | hrest
      · exact hidle
      · exact ih hexecuted _ _ m hrest

theorem once_history (env : Environment σ) (actions : List Action) (c : Command) (bus : Bus σ)
    (supply : Supply) :
    (history env actions c bus supply).Pairwise fun m later => m.Effective →
      ¬ later.Effective ∧ (later.action = .execute → later.Rejected alreadyExecuted) := by
  induction actions generalizing c bus supply with
  | nil => exact .nil
  | cons action actions ih =>
      refine .cons (fun later hlater heffective => ?_) (ih _ _ _)
      exact idle_history_of_executed env (executed_of_effective env bus supply heffective) actions
        _ _ later hlater

theorem singleUse_history (env : Environment σ) (actions : List Action) (c : Command)
    (bus : Bus σ) (supply : Supply) : SingleUse (history env actions c bus supply) where
  executes m hm heffective := by
    rw [eq_moment_of_mem hm] at heffective
    cases haction : m.action with
    | execute => rfl
    | set setting =>
        rw [haction] at heffective
        exact absurd heffective (not_effective_set env _ _ _ setting)
  effective m hm haction hexecuted hcomplete := by
    obtain ⟨role, scope, e, hready⟩ := ready_of_complete hexecuted hcomplete
    rw [eq_moment_of_mem hm, haction]
    exact effective_of_ready env _ _ hready
  incomplete m hm haction hincomplete := by
    obtain ⟨reason, hready⟩ := ready_of_incomplete hincomplete
    rw [eq_moment_of_mem hm, haction]
    exact ⟨reason, rejected_of_not_ready env _ _ hready⟩
  once := once_history env actions c bus supply
  signals := by
    have hle : c.signalsLeft ≤ 1 := by
      unfold signalsLeft
      split <;> decide
    exact Nat.le_trans (signals_history env actions c bus supply) hle

/-! ## Transports that do not take signals -/

section Alike

variable {R : σ → σ' → Prop} {env : Environment σ} {env' : Environment σ'}
  (h : env.Alike R env')

include h

theorem moment_alike (c : Command) {bus : Bus σ} {bus' : Bus σ'} (hb : bus.Alike R bus')
    (supply : Supply) (action : Action) :
    (moment env c bus supply action).Alike R (moment env' c bus' supply action) := by
  refine ⟨rfl, rfl, hb, rfl, ?_⟩
  cases action with
  | set setting => exact ⟨rfl, rfl, hb, rfl, rfl⟩
  | execute => exact execute_alike h c hb supply

theorem history_alike (actions : List Action) (c : Command) {bus : Bus σ} {bus' : Bus σ'}
    (hb : bus.Alike R bus') (supply : Supply) :
    List.Forall₂ (Moment.Alike R) (history env actions c bus supply)
      (history env' actions c bus' supply) := by
  induction actions generalizing c bus bus' supply with
  | nil => exact .nil
  | cons action actions ih =>
      have hfirst := moment_alike h c hb supply action
      refine .cons hfirst ?_
      rw [hfirst.outcome.command, hfirst.outcome.supply]
      exact ih _ hfirst.outcome.bus _

end Alike

/-- Whatever is done with a command, in whatever order, it is used once, and what comes of every
action does not depend on whether the transport takes the signals that it is given. -/
theorem history_single_use (env : Environment σ) (actions : List Action) (c : Command)
    (bus : Bus σ) (supply : Supply) :
    SingleUse (history env actions c bus supply) ∧
    ∀ (σ' : Type) (R : σ → σ' → Prop) (env' : Environment σ') (bus' : Bus σ'),
      env.Alike R env' → bus.Alike R bus' →
        List.Forall₂ (Moment.Alike R) (history env actions c bus supply)
          (history env' actions c bus' supply) :=
  ⟨singleUse_history env actions c bus supply,
    fun _ _ _ _ henv hbus => history_alike henv actions c hbus supply⟩

section Books

open Rehearsal

/-- The channels have the same ahead of them and behind them, but for the signals. -/
def SameButSignals (s s' : Channel) : Prop :=
  s' = { s with acknowledge := s'.acknowledge, refuse := s'.refuse }

/-- Nothing in a rehearsal depends on how the channel takes the signals. -/
theorem rehearsal_alike (handlers : Dict HandlerScript) (policy : PolicyScript) :
    (environment handlers policy).Alike SameButSignals (environment handlers policy) where
  parties :=
    { enforce := fun _ _ _ _ _ _ hs => ⟨rfl, hs⟩
      understood := fun _ _ _ _ => rfl
      handleMessage := fun _ _ _ _ hs => ⟨rfl, hs⟩
      handleError := fun _ _ _ _ _ hs => ⟨rfl, hs⟩
      send := fun e s s' hs => by rw [hs]; exact ⟨rfl, rfl⟩
      sendSync := fun e limit s s' hs => by rw [hs]; exact ⟨rfl, rfl⟩
      acknowledge := fun e s s' hs => by rw [hs]; rfl
      refuse := fun e cause s s' hs => by rw [hs]; rfl
      notify := fun _ _ _ hs => hs }
  directory := rfl
  settings := rfl

/-- A command that is executed four times: before it is set up, before it has its order, with the
order, whose acknowledgement the channel does not take, and with another order. -/
theorem history_single_use_order :
    let env := environment ∅ .permissive
    let actions : List Action :=
      [.execute, .set (.role .receiver), .set (.scope .request), .set (.handler "stock"), .execute,
        .set (.exchange bookOrder), .execute, .set (.exchange bareOrder), .execute]
    let bus : Bus Channel := { parties := { acknowledge := [some default] } }
    let moments := history env actions { variant := .oneWay } bus .counting
    moments.map (·.outcome.trace.isEmpty) =
      [true, true, true, true, true, true, false, true, true] ∧
    SingleUse moments ∧
    List.Forall₂ (Moment.Alike SameButSignals) moments
      (history env actions { variant := .oneWay } { parties := {} } .counting) := by
  intro env actions bus moments
  obtain ⟨hsingle, halike⟩ := history_single_use env actions { variant := .oneWay } bus .counting
  have hbus : bus.Alike SameButSignals { parties := {} } := ⟨rfl, rfl, rfl, rfl⟩
  exact ⟨rfl, hsingle, halike Channel SameButSignals env _ (rehearsal_alike ∅ .permissive) hbus⟩

end Books

end ServiceBus.Command
