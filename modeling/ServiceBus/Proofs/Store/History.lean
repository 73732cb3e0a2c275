import Mathlib.Data.List.Induction
import Mathlib.Tactic.ByContra
import ServiceBus.Proofs.Trace

set_option autoImplicit false

/-! # What a store holds

What is done with a store is a list of actions. An exchange is there as long as nothing takes it
away: it may be let go, a purge may take it when it is older than the cutoff, and another exchange
about the same message takes its place, with an age of its own. So a store holds the exchanges that
were put in last under their identifiers and have not been taken away since (`LastKept`); this is
what every action keeps (`find?_perform`, `lastKept_concat`), and every history with it
(`find?_after`).

The clock does not go back. Whatever takes an exchange away therefore takes those with it that were
put in before, and a message is forgotten exactly if everything that was put in under its
identifier has been taken away (`find?_after_eq_none_iff`). -/

namespace ServiceBus.Store

/-! ## Histories -/

/-- Something that is done with a store. -/
inductive Action where
  | persist (e : Exchange) (time : Timestamp)
  | get (id : Uuid)
  | release (id : Uuid)
  | contains (id : Uuid)
  | purge (cutoff : Timestamp)
  deriving DecidableEq

/-- The store after an action. -/
def perform (s : Store) : Action → Store
  | .persist e time => Store.persist s e time
  | .get _ | .contains _ => s
  | .release id => (Store.release s id).2
  | .purge cutoff => (Store.purge s cutoff).2

/-- The store after a list of actions on an empty one. -/
def after (actions : List Action) : Store := actions.foldl perform ∅

theorem after_concat (actions : List Action) (a : Action) :
    after (actions ++ [a]) = perform (after actions) a :=
  List.foldl_append

namespace Action

/-- The action puts an exchange in under the identifier. -/
def PutsIn (id : Uuid) : Action → Prop
  | .persist e _ => e.messageId = id
  | .get _ | .release _ | .contains _ | .purge _ => False

/-- The action takes away what has been there under the identifier since a time. -/
def TakesAway (id : Uuid) (since : Timestamp) : Action → Prop
  | .release id' => id' = id
  | .purge cutoff => since < cutoff
  | .persist _ _ | .get _ | .contains _ => False

/-- When the action puts an exchange in. -/
def time? : Action → Option Timestamp
  | .persist _ time => some time
  | .get _ | .release _ | .contains _ | .purge _ => none

/-- What is taken away is not spared for having been put in earlier. -/
theorem TakesAway.mono {id : Uuid} {since since' : Timestamp} {a : Action}
    (h : a.TakesAway id since') (hle : since ≤ since') : a.TakesAway id since := by
  cases a with
  | release id' => exact h
  | purge cutoff => exact Int.lt_of_le_of_lt hle h
  | persist e time => exact h.elim
  | get id' => exact h.elim
  | contains id' => exact h.elim

end Action

/-- The exchange was put in last under the identifier, and has not been taken away since. -/
def LastKept (actions : List Action) (id : Uuid) (stored : Stored) : Prop :=
  ∃ before after, actions = before ++ .persist stored.exchange stored.since :: after ∧
    stored.exchange.messageId = id ∧
    ∀ a ∈ after, ¬ a.PutsIn id ∧ ¬ a.TakesAway id stored.since

/-- The times at which exchanges are put in do not go back. -/
def ClockForward (actions : List Action) : Prop :=
  (actions.filterMap Action.time?).Pairwise fun t u => t ≤ u

instance (actions : List Action) : Decidable (ClockForward actions) :=
  inferInstanceAs (Decidable (List.Pairwise _ _))

/-! ## One action -/

/-- What is under an identifier after an action has been put in by it, or was there before and is
neither replaced nor taken away. -/
theorem find?_perform (s : Store) (a : Action) (id : Uuid) (stored : Stored) :
    (s.perform a).find? id = some stored ↔
      (a = .persist stored.exchange stored.since ∧ stored.exchange.messageId = id) ∨
        (¬ a.PutsIn id ∧ ¬ a.TakesAway id stored.since ∧ s.find? id = some stored) := by
  cases a with
  | persist e time =>
      show (Table.insert s e.messageId ⟨e, time⟩).find? id = some stored ↔ _
      by_cases hid : e.messageId = id
      · subst hid
        rw [Table.find?_insert_self]
        constructor
        · rintro ⟨⟩
          exact .inl ⟨rfl, rfl⟩
        · rintro (⟨⟨⟩, -⟩ | ⟨hno, -⟩)
          · rfl
          · exact absurd rfl hno
      · rw [Table.find?_insert_of_ne s _ (Ne.symm hid)]
        constructor
        · exact fun h => .inr ⟨hid, not_false, h⟩
        · rintro (⟨⟨⟩, hid'⟩ | ⟨-, -, h⟩)
          · exact absurd hid' hid
          · exact h
  | get id' => simp [perform, Action.PutsIn, Action.TakesAway]
  | contains id' => simp [perform, Action.PutsIn, Action.TakesAway]
  | release id' =>
      show (Table.erase s id').find? id = some stored ↔ _
      rw [Table.find?_erase]
      by_cases hid : id = id'
      · simp [hid, Action.PutsIn, Action.TakesAway]
      · simp [hid, Ne.symm hid, Action.PutsIn, Action.TakesAway]
  | purge cutoff =>
      show (s.filter fun _ stored => decide (cutoff ≤ stored.since)).find? id = some stored ↔ _
      rw [Table.find?_filter_eq_some_iff, decide_eq_true_iff]
      simp [Action.PutsIn, Action.TakesAway, ← Timestamp.not_le, and_comm]

/-- The same holds of what was put in last and has not been taken away. -/
theorem lastKept_concat (actions : List Action) (a : Action) (id : Uuid) (stored : Stored) :
    LastKept (actions ++ [a]) id stored ↔
      (a = .persist stored.exchange stored.since ∧ stored.exchange.messageId = id) ∨
        (¬ a.PutsIn id ∧ ¬ a.TakesAway id stored.since ∧ LastKept actions id stored) := by
  constructor
  · rintro ⟨before, after, hactions, hid, hafter⟩
    rcases split_concat hactions with ⟨rest, rfl, rfl⟩ | ⟨-, ha, -⟩
    · obtain ⟨hputs, htakes⟩ := hafter a (List.mem_append_right _ (List.mem_singleton_self a))
      exact .inr ⟨hputs, htakes, before, rest, rfl, hid,
        fun b hb => hafter b (List.mem_append_left _ hb)⟩
    · exact .inl ⟨ha, hid⟩
  · rintro (⟨rfl, hid⟩ | ⟨hputs, htakes, before, after, rfl, hid, hafter⟩)
    · exact ⟨actions, [], rfl, hid, List.forall_mem_nil _⟩
    · refine ⟨before, after ++ [a], by simp, hid, fun b hb => ?_⟩
      rcases List.mem_append.mp hb with hb | hb
      · exact hafter b hb
      · rw [List.mem_singleton.mp hb]
        exact ⟨hputs, htakes⟩

/-! ## Many actions -/

/-- A store holds what was put in last and has not been taken away. -/
theorem find?_after (actions : List Action) (id : Uuid) (stored : Stored) :
    (after actions).find? id = some stored ↔ LastKept actions id stored := by
  induction actions using List.reverseRecOn with
  | nil =>
      refine iff_of_false (fun h => by cases h) ?_
      rintro ⟨before, after, hnil, -⟩
      simp at hnil
  | append_singleton actions a ih => rw [after_concat, find?_perform, lastKept_concat, ih]

theorem get?_after (actions : List Action) (id : Uuid) (e : Exchange) :
    (after actions).get? id = some e ↔ ∃ time, LastKept actions id ⟨e, time⟩ := by
  have hget : (after actions).get? id = ((after actions).find? id).map (·.exchange) := rfl
  rw [hget, Option.map_eq_some_iff]
  constructor
  · rintro ⟨⟨e, time⟩, hfind, rfl⟩
    exact ⟨time, (find?_after actions id _).mp hfind⟩
  · rintro ⟨time, hkept⟩
    exact ⟨⟨e, time⟩, (find?_after actions id _).mpr hkept, rfl⟩

/-- The identifiers under which there is something, each once. -/
theorem keys_after (actions : List Action) :
    let ids := (after actions).entries.map Prod.fst
    ids.Nodup ∧ (∀ id, id ∈ ids ↔ ∃ stored, LastKept actions id stored) ∧
      (after actions).size = ids.length := by
  intro ids
  refine ⟨(after actions).nodup, fun id => ?_, (List.length_map _).symm⟩
  exact Table.mem_keys_iff.trans (exists_congr fun stored => find?_after actions id stored)

/-! ## The clock -/

section Clock

variable {actions : List Action} {id : Uuid}

/-- What was put in last under an identifier is the youngest that was. -/
theorem LastKept.youngest {stored : Stored} (h : LastKept actions id stored)
    (hclock : ClockForward actions) {e : Exchange} {time : Timestamp}
    (hmem : .persist e time ∈ actions) (hid : e.messageId = id) : time ≤ stored.since := by
  obtain ⟨before, after, rfl, -, hafter⟩ := h
  rw [ClockForward, List.filterMap_append, List.filterMap_cons] at hclock
  rcases List.mem_append.mp hmem with hmem | hmem
  · refine (List.pairwise_append.mp hclock).2.2 time ?_ _ List.mem_cons_self
    exact List.mem_filterMap.mpr ⟨_, hmem, rfl⟩
  · rcases List.mem_cons.mp hmem with heq | hmem
    · cases heq
      exact Timestamp.le_refl _
    · exact absurd hid (hafter _ hmem).1

/-- If something that was put in has not been taken away, then there is something. -/
theorem exists_lastKept (hclock : ClockForward actions) {before rest : List Action} {e : Exchange}
    {time : Timestamp} (hactions : actions = before ++ .persist e time :: rest)
    (hid : e.messageId = id) (hrest : ∀ a ∈ rest, ¬ a.TakesAway id time) :
    ∃ stored, LastKept actions id stored := by
  induction rest using List.reverseRecOn generalizing actions with
  | nil => exact ⟨⟨e, time⟩, before, [], hactions, hid, List.forall_mem_nil _⟩
  | append_singleton rest a ih =>
      have hsplit : actions = (before ++ .persist e time :: rest) ++ [a] := by
        simpa using hactions
      subst hsplit
      have hclock' : ClockForward (before ++ .persist e time :: rest) := by
        rw [ClockForward, List.filterMap_append] at hclock
        exact (List.pairwise_append.mp hclock).1
      obtain ⟨stored, hkept⟩ := ih hclock' rfl fun b hb => hrest b (List.mem_append_left _ hb)
      by_cases hputs : a.PutsIn id
      · cases a with
        | persist e' time' =>
            exact ⟨⟨e', time'⟩, (lastKept_concat _ _ _ _).mpr (.inl ⟨rfl, hputs⟩)⟩
        | _ => exact hputs.elim
      · -- what is there is younger, so that the action does not take it away either
        have hmem : .persist e time ∈ before ++ .persist e time :: rest := by simp
        have hyoungest := hkept.youngest hclock' hmem hid
        have hspared := hrest a (List.mem_append_right _ (List.mem_singleton_self a))
        exact ⟨stored, (lastKept_concat _ _ _ _).mpr
          (.inr ⟨hputs, fun htakes => hspared (htakes.mono hyoungest), hkept⟩)⟩

/-- There is nothing under an identifier exactly if all that was put in has been taken away. -/
theorem find?_after_eq_none_iff (hclock : ClockForward actions) :
    (after actions).find? id = none ↔
      ∀ before e time rest, actions = before ++ .persist e time :: rest → e.messageId = id →
        ∃ a ∈ rest, a.TakesAway id time := by
  constructor
  · intro hnone before e time rest hactions hid
    by_contra hno
    obtain ⟨stored, hkept⟩ := exists_lastKept hclock hactions hid
      fun a ha htakes => hno ⟨a, ha, htakes⟩
    rw [(find?_after actions id stored).mpr hkept] at hnone
    cases hnone
  · intro hall
    rw [Option.eq_none_iff_forall_ne_some]
    intro stored hfind
    obtain ⟨before, rest, hactions, hid, hrest⟩ := (find?_after actions id stored).mp hfind
    obtain ⟨a, ha, htakes⟩ := hall before stored.exchange stored.since rest hactions hid
    exact (hrest a ha).2 htakes

end Clock

/-! ## Purges -/

/-- The later one of two times. -/
def later (t u : Timestamp) : Timestamp := if t ≤ u then u else t

theorem later_le_iff {t u v : Timestamp} : later t u ≤ v ↔ t ≤ v ∧ u ≤ v := by
  unfold later
  split
  · next h => exact ⟨fun hu => ⟨Timestamp.le_trans h hu, hu⟩, And.right⟩
  · next h =>
      have hut : u ≤ t := Int.le_of_lt (Timestamp.not_le.mp h)
      exact ⟨fun ht => ⟨ht, Timestamp.le_trans hut ht⟩, And.left⟩

section Purge

variable (s : Store) (cutoff : Timestamp)

/-- A purge tells how many exchanges it has taken away. -/
theorem purge_fst_add_size : (Store.purge s cutoff).1 + (Store.purge s cutoff).2.size = s.size := by
  have hkept : (Store.purge s cutoff).2.size = s.entries.countP fun e => cutoff ≤ e.2.since :=
    List.countP_eq_length_filter.symm
  have htaken : (Store.purge s cutoff).1 =
      s.entries.countP fun e => decide ¬ decide (cutoff ≤ e.2.since) = true :=
    List.countP_congr fun e _ => by simp
  rw [hkept, htaken, Nat.add_comm]
  exact (List.length_eq_countP_add_countP _).symm

/-- Two purges take away what one with the later cutoff does. -/
theorem purge_purge (cutoff' : Timestamp) :
    (Store.purge (Store.purge s cutoff).2 cutoff').2 = (Store.purge s (later cutoff cutoff')).2 := by
  refine Table.eq_of_entries ?_
  show ((s.entries.filter _).filter _) = s.entries.filter _
  rw [List.filter_filter]
  refine List.filter_congr fun e _ => ?_
  rw [← Bool.decide_and, decide_eq_decide, later_le_iff]
  exact and_comm

/-- The two purges tell together what the one purge tells. -/
theorem purge_fst_add_purge_fst (cutoff' : Timestamp) :
    (Store.purge s cutoff).1 + (Store.purge (Store.purge s cutoff).2 cutoff').1 =
      (Store.purge s (later cutoff cutoff')).1 := by
  have hfirst := purge_fst_add_size s cutoff
  have hsecond := purge_fst_add_size (Store.purge s cutoff).2 cutoff'
  have honce := purge_fst_add_size s (later cutoff cutoff')
  rw [purge_purge] at hsecond
  omega

end Purge

/-- What a store holds after any actions, under a clock that does not go back. There is an exchange
under an identifier exactly if it was put in last and has not been taken away since, and nothing
exactly if all that was put in has been; letting an exchange go returns it, and there are as many
exchanges as such identifiers. A purge takes away those that were put in before the cutoff, going
by the last time at which this was done, and tells how many fewer there are; two purges do what one
with the later cutoff does. -/
theorem holds_last_kept (actions : List Action) (hclock : ClockForward actions) :
    let s := after actions
    (∀ id e, s.get? id = some e ↔ ∃ time, LastKept actions id ⟨e, time⟩) ∧
      (∀ id, s.get? id = none ↔
        ∀ before e time rest, actions = before ++ .persist e time :: rest → e.messageId = id →
          ∃ a ∈ rest, a.TakesAway id time) ∧
      (∀ id, (Store.release s id).1 = s.get? id ∧ s.contains id = (s.get? id).isSome) ∧
      (∃ ids : List Uuid, ids.Nodup ∧ (∀ id, id ∈ ids ↔ ∃ stored, LastKept actions id stored) ∧
        s.size = ids.length) ∧
      (∀ cutoff, (Store.purge s cutoff).1 + (Store.purge s cutoff).2.size = s.size ∧
        ∀ id stored, (Store.purge s cutoff).2.find? id = some stored ↔
          LastKept actions id stored ∧ ¬ stored.since < cutoff) ∧
      ∀ cutoff cutoff', let twice := Store.purge (Store.purge s cutoff).2 cutoff'
        let once := Store.purge s (later cutoff cutoff')
        twice.2 = once.2 ∧ (Store.purge s cutoff).1 + twice.1 = once.1 := by
  intro s
  have hget : ∀ id, s.get? id = (s.find? id).map (·.exchange) := fun id => rfl
  refine ⟨get?_after actions, fun id => ?_, fun id => ⟨rfl, ?_⟩, ⟨_, keys_after actions⟩,
    fun cutoff => ⟨purge_fst_add_size s cutoff, fun id stored => ?_⟩,
    fun cutoff cutoff' => ⟨purge_purge s cutoff cutoff', purge_fst_add_purge_fst s cutoff cutoff'⟩⟩
  · rw [hget, Option.map_eq_none_iff]
    exact find?_after_eq_none_iff hclock
  · rw [hget, Option.isSome_map]
    rfl
  · rw [← find?_after, Timestamp.not_lt]
    exact Table.find?_filter_eq_some_iff.trans (and_congr_right' decide_eq_true_iff)

section Orders

/-- An order that waits for its response. -/
def order : Exchange where
  id := .generated 1
  pattern := .inOut
  serviceId := "orders"
  operation := "place"
  context := { messageId := .generated 0, createdAt := .within 2024 0 }

/-- An order that is put in again is as old as its last time: a purge of what was put in before
that moment leaves it. -/
theorem holds_last_kept_order :
    let actions : List Action :=
      [.persist order (.within 2024 1), .purge (.within 2024 0),
        .persist { order with status := .done } (.within 2024 5), .purge (.within 2024 5)]
    ClockForward actions ∧
      (after actions).get? order.messageId = some { order with status := .done } ∧
      (Store.purge (after actions) (.within 2024 6)).1 = 1 := by
  intro actions
  have hclock : ClockForward actions := by decide
  have hholds := holds_last_kept actions hclock
  have hget := (hholds.1 order.messageId { order with status := .done }).mpr
    ⟨.within 2024 5, (find?_after actions _ _).mp rfl⟩
  exact ⟨hclock, hget, by decide⟩

end Orders

end ServiceBus.Store
