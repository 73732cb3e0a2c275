import ServiceBus.Collection.Table
import ServiceBus.Vocabulary

set_option autoImplicit false

/-! # Handlers

Participants register handlers for a role, a service and an operation. Commands look them up
through a cache that keeps the first handler found under a key for good, and does not remember
that none was found. -/

namespace ServiceBus

/-- The name of a handler. -/
abbrev HandlerName := String

/-- What a handler is registered for. -/
structure HandlerKey where
  role : Role
  serviceId : String
  operation : String
  deriving DecidableEq

/-- The key with its parts separated by slashes. -/
def HandlerKey.text (k : HandlerKey) : String :=
  word k.role ++ "/" ++ k.serviceId ++ "/" ++ k.operation

/-- The handlers registered at present. -/
abbrev Registry := Table HandlerKey HandlerName

/-- The handlers found so far. -/
abbrev HandlerCache := Table HandlerKey HandlerName

/-- The handler for a key, and the cache afterwards: the one found before, or the one
registered now, which is then kept. -/
def HandlerCache.resolve (cache : HandlerCache) (registry : Registry) (key : HandlerKey) :
    Option HandlerName × HandlerCache :=
  match cache.find? key with
  | some handler => (some handler, cache)
  | none =>
      match registry.find? key with
      | some handler => (some handler, cache.insert key handler)
      | none => (none, cache)

/-! ## Looking up handlers -/

theorem resolve_fst (cache : HandlerCache) (registry : Registry) (key : HandlerKey) :
    (cache.resolve registry key).1 = (cache.find? key).or (registry.find? key) := by
  unfold HandlerCache.resolve
  cases cache.find? key with
  | some handler => rfl
  | none => cases registry.find? key <;> rfl

theorem find?_resolve_snd (cache : HandlerCache) (registry : Registry) (key k : HandlerKey) :
    (cache.resolve registry key).2.find? k =
      (cache.find? k).or (if k = key then registry.find? k else none) := by
  unfold HandlerCache.resolve
  split
  · next handler h =>
      split
      · next heq => rw [heq, h]; rfl
      · exact Option.or_none.symm
  · next h =>
      split
      · next handler hr =>
          by_cases heq : k = key
          · rw [heq, Table.find?_insert_self, h, if_pos rfl, hr]
            rfl
          · rw [Table.find?_insert_of_ne _ _ heq, if_neg heq, Option.or_none]
      · next hr =>
          split
          · next heq => rw [heq, h, hr]; rfl
          · exact Option.or_none.symm

/-- The look-up changes the cache only when it finds a handler. -/
theorem resolve_snd_of_none {cache : HandlerCache} {registry : Registry} {key : HandlerKey}
    (h : (cache.resolve registry key).1 = none) : (cache.resolve registry key).2 = cache := by
  unfold HandlerCache.resolve at h ⊢
  cases hc : cache.find? key with
  | some handler => rfl
  | none =>
      rw [hc] at h
      cases hr : registry.find? key with
      | some handler => simp [hr] at h
      | none => rfl

end ServiceBus
