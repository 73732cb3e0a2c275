import Mathlib.Data.List.Induction
import ServiceBus.Proofs.Trace

set_option autoImplicit false

/-! # Handlers are established once

What is done with the handlers is a list of actions: one is registered, which replaces the one
registered before, or one is looked up through the cache. The cache is a snapshot of registrations
that are past (`find?_cache_after`): under each key it has what the first look-up that found
something found, which need not be what is registered now. As long as no look-up of a key has found
anything, the cache has nothing to say about it, and the next look-up sees what is registered at
that moment. -/

namespace ServiceBus

/-- The handlers registered at present and those found so far. -/
structure Handlers where
  registry : Registry := ∅
  cache : HandlerCache := ∅

namespace Handlers

/-! ## Histories -/

/-- Something that is done with the handlers. -/
inductive Action where
  | register (key : HandlerKey) (handler : HandlerName)
  | resolve (key : HandlerKey)
  deriving DecidableEq

/-- The key that an action is about. -/
def Action.key : Action → HandlerKey
  | .register key _ => key
  | .resolve key => key

/-- The handler that an action registers under a key. -/
def Action.registers? (key : HandlerKey) : Action → Option HandlerName
  | .register k handler => if k = key then some handler else none
  | .resolve _ => none

/-- The handlers after an action. -/
def perform (h : Handlers) : Action → Handlers
  | .register key handler => { h with registry := h.registry.insert key handler }
  | .resolve key => { h with cache := (h.cache.resolve h.registry key).2 }

/-- The handler that a look-up finds. -/
def answer (h : Handlers) (key : HandlerKey) : Option HandlerName :=
  (h.cache.resolve h.registry key).1

/-- The handlers after a list of actions, none being there before. -/
def after (actions : List Action) : Handlers := actions.foldl perform {}

theorem after_concat (actions : List Action) (a : Action) :
    after (actions ++ [a]) = (after actions).perform a :=
  List.foldl_append

/-- The handler registered last under a key. -/
def lastRegistered? (key : HandlerKey) (actions : List Action) : Option HandlerName :=
  (actions.filterMap (·.registers? key)).getLast?

/-- A look-up of the key has found the handler. -/
def Answered (actions : List Action) (key : HandlerKey) (handler : HandlerName) : Prop :=
  ∃ before rest, actions = before ++ .resolve key :: rest ∧
    (after before).answer key = some handler

/-! ## One action -/

theorem answer_eq (h : Handlers) (key : HandlerKey) :
    h.answer key = (h.cache.find? key).or (h.registry.find? key) :=
  resolve_fst h.cache h.registry key

/-- What the cache has found stays, and a look-up adds what it finds. -/
theorem find?_cache_perform (h : Handlers) (a : Action) (key : HandlerKey)
    (handler : HandlerName) :
    (h.perform a).cache.find? key = some handler ↔
      h.cache.find? key = some handler ∨ a = .resolve key ∧ h.answer key = some handler := by
  cases a with
  | register k handler' => simp [perform]
  | resolve k =>
      show (h.cache.resolve h.registry k).2.find? key = some handler ↔ _
      rw [find?_resolve_snd, answer_eq]
      by_cases hk : key = k
      · subst hk
        cases h.cache.find? key <;> simp
      · simp [hk, Ne.symm hk]

theorem find?_registry_perform (h : Handlers) (a : Action) (key : HandlerKey) :
    (h.perform a).registry.find? key = (a.registers? key).or (h.registry.find? key) := by
  cases a with
  | resolve k => rfl
  | register k handler =>
      show (h.registry.insert k handler).find? key = _
      by_cases hk : k = key
      · rw [hk, Table.find?_insert_self, Action.registers?, if_pos rfl, Option.some_or]
      · rw [Table.find?_insert_of_ne _ _ (Ne.symm hk), Action.registers?, if_neg hk,
          Option.none_or]

/-- A look-up that finds nothing leaves no mark. -/
theorem perform_resolve_of_none {h : Handlers} {key : HandlerKey} (hnone : h.answer key = none) :
    h.perform (.resolve key) = h := by
  rw [perform, resolve_snd_of_none hnone]

/-- A look-up that has found something finds it again. -/
theorem find?_cache_of_answer {h : Handlers} {key : HandlerKey} {handler : HandlerName}
    (hanswer : h.answer key = some handler) :
    (h.perform (.resolve key)).cache.find? key = some handler :=
  (find?_cache_perform h _ key handler).mpr (.inr ⟨rfl, hanswer⟩)

theorem answer_of_find? {h : Handlers} {key : HandlerKey} {handler : HandlerName}
    (hfound : h.cache.find? key = some handler) : h.answer key = some handler := by
  rw [answer_eq, hfound, Option.some_or]

/-- The handlers are the same as far as a key goes. -/
def SameUnder (key : HandlerKey) (h h' : Handlers) : Prop :=
  h'.cache.find? key = h.cache.find? key ∧ h'.registry.find? key = h.registry.find? key

/-- An action on one key leaves what there is under the others. -/
theorem sameUnder_perform (h : Handlers) {a : Action} {key : HandlerKey} (hkey : a.key ≠ key) :
    SameUnder key h (h.perform a) := by
  cases a with
  | register k handler => exact ⟨rfl, Table.find?_insert_of_ne _ _ (Ne.symm hkey)⟩
  | resolve k =>
      have hne : ¬ key = k := Ne.symm hkey
      refine ⟨?_, rfl⟩
      show (h.cache.resolve h.registry k).2.find? key = _
      rw [find?_resolve_snd, if_neg hne, Option.or_none]

/-- What an action makes of a key depends on what there is under this key only. -/
theorem SameUnder.perform {h h' : Handlers} {key : HandlerKey} (hs : SameUnder key h h')
    (a : Action) : SameUnder key (h.perform a) (h'.perform a) := by
  refine ⟨?_, by rw [find?_registry_perform, find?_registry_perform, hs.2]⟩
  cases a with
  | register k handler => exact hs.1
  | resolve k =>
      show (h'.cache.resolve h'.registry k).2.find? key =
        (h.cache.resolve h.registry k).2.find? key
      rw [find?_resolve_snd, find?_resolve_snd, hs.1, hs.2]

theorem SameUnder.answer {h h' : Handlers} {key : HandlerKey} (hs : SameUnder key h h') :
    h'.answer key = h.answer key := by
  rw [answer_eq, answer_eq, hs.1, hs.2]

/-! ## Many actions -/

theorem answered_concat (actions : List Action) (a : Action) (key : HandlerKey)
    (handler : HandlerName) :
    Answered (actions ++ [a]) key handler ↔
      Answered actions key handler ∨
        a = .resolve key ∧ (after actions).answer key = some handler := by
  constructor
  · rintro ⟨before, rest, hactions, hanswer⟩
    rcases split_concat hactions with ⟨rest', rfl, -⟩ | ⟨rfl, ha, -⟩
    · exact .inl ⟨before, rest', rfl, hanswer⟩
    · exact .inr ⟨ha, hanswer⟩
  · rintro (⟨before, rest, rfl, hanswer⟩ | ⟨rfl, hanswer⟩)
    · exact ⟨before, rest ++ [a], by simp, hanswer⟩
    · exact ⟨actions, [], rfl, hanswer⟩

/-- The cache has the handlers that look-ups have found. -/
theorem find?_cache_after (actions : List Action) (key : HandlerKey) (handler : HandlerName) :
    (after actions).cache.find? key = some handler ↔ Answered actions key handler := by
  induction actions using List.reverseRecOn with
  | nil =>
      refine iff_of_false (fun h => by cases h) ?_
      rintro ⟨before, rest, hnil, -⟩
      simp at hnil
  | append_singleton actions a ih => rw [after_concat, find?_cache_perform, answered_concat, ih]

/-- The registry has the handlers registered last. -/
theorem find?_registry_after (actions : List Action) (key : HandlerKey) :
    (after actions).registry.find? key = lastRegistered? key actions := by
  induction actions using List.reverseRecOn with
  | nil => rfl
  | append_singleton actions a ih =>
      rw [after_concat, find?_registry_perform, ih, lastRegistered?, lastRegistered?,
        List.filterMap_append, List.getLast?_append]
      cases ha : a.registers? key <;> simp [ha]

/-- Only the actions on a key make a difference to it. -/
theorem sameUnder_filter (actions : List Action) (key : HandlerKey) :
    SameUnder key (after (actions.filter (·.key = key))) (after actions) := by
  induction actions using List.reverseRecOn with
  | nil => exact ⟨rfl, rfl⟩
  | append_singleton actions a ih =>
      rw [after_concat, List.filter_append]
      by_cases hkey : a.key = key
      · rw [List.filter_cons_of_pos (by simpa using hkey), List.filter_nil, after_concat]
        exact ih.perform a
      · have hsame := sameUnder_perform (after actions) hkey
        rw [List.filter_cons_of_neg (by simpa using hkey), List.filter_nil, List.append_nil]
        exact ⟨hsame.1.trans ih.1, hsame.2.trans ih.2⟩

/-- The keys that have been looked up and found, each once. -/
theorem keys_after (actions : List Action) :
    let keys := (after actions).cache.entries.map Prod.fst
    keys.Nodup ∧ (∀ key, key ∈ keys ↔ ∃ handler, Answered actions key handler) ∧
      (after actions).cache.size = keys.length := by
  intro keys
  refine ⟨(after actions).cache.nodup, fun key => ?_, (List.length_map _).symm⟩
  exact Table.mem_keys_iff.trans (exists_congr fun handler => find?_cache_after actions key handler)

/-- What look-ups find after any actions: what a look-up of the key has found before, whatever has
been registered since, and otherwise what is registered now. Nothing is remembered of a look-up
that finds nothing, actions on other keys make no difference, and the cache has as many entries as
keys have been found. -/
theorem resolved_once (actions : List Action) :
    (∀ key handler, Answered actions key handler → (after actions).answer key = some handler) ∧
      (∀ key, (∀ handler, ¬ Answered actions key handler) →
        (after actions).answer key = lastRegistered? key actions) ∧
      (∀ key, (after actions).answer key = none →
        after (actions ++ [.resolve key]) = after actions) ∧
      (∀ key, (after actions).answer key = (after (actions.filter (·.key = key))).answer key) ∧
      ∃ keys : List HandlerKey, keys.Nodup ∧
        (∀ key, key ∈ keys ↔ ∃ handler, Answered actions key handler) ∧
        (after actions).cache.size = keys.length := by
  refine ⟨fun key handler h => answer_of_find? ((find?_cache_after actions key handler).mpr h),
    fun key hno => ?_, fun key hnone => ?_, fun key => (sameUnder_filter actions key).answer,
    ⟨_, keys_after actions⟩⟩
  · have hcache : (after actions).cache.find? key = none :=
      Option.eq_none_iff_forall_ne_some.mpr fun handler h =>
        hno handler ((find?_cache_after actions key handler).mp h)
    rw [answer_eq, hcache, Option.none_or, find?_registry_after]
  · rw [after_concat, perform_resolve_of_none hnone]

end Handlers

end ServiceBus
