import ServiceBus.Proofs.Command.Keeping
import ServiceBus.Proofs.Command.Related
import ServiceBus.Proofs.Leg.Agree

set_option autoImplicit false

/-! # Commands about different messages

Two commands whose exchanges are about different messages have nothing to do with each other, also
if they share everything else: it makes no difference which of them is executed first
(`execute_comm`). This holds as long as the parties look at nothing but the questions that they are
asked (`Parties.Steady`).

An execution comes to the same on two buses that are the same for the command (`execute_agree`):
the exchange about its message is the same in both, and so are the handlers that can be found. What
the other command does to the bus is nothing of the kind. It keeps or lets go under another
identifier, and the handlers that it adds to the cache are those that are registered. -/

namespace ServiceBus

variable {σ : Type}

/-- The command without its times. -/
def Command.timeless (c : Command) : Command :=
  { c with
    began := c.began.map fun _ => default
    ended := c.ended.map fun _ => default }

/-- The executions come to the same, with the same calls, up to times. -/
structure Execution.SameButTimes (x x' : Execution σ Unit) : Prop where
  result : x'.result = x.result
  command : x'.command.timeless = x.command.timeless
  calls : timelessCalls x'.trace = timelessCalls x.trace

/-- The exchange of the command is about this message. -/
def Command.About (c : Command) (id : Uuid) : Prop :=
  ∃ e, c.exchange = some e ∧ e.messageId = id

/-- The buses are the same for the command: the same exchange is kept about its message, and the
same handlers are found. -/
structure Bus.SameFor (c : Command) (bus bus' : Bus σ) : Prop where
  kept (id : Uuid) (h : c.About id) : bus'.store.get? id = bus.store.get? id
  registry : bus'.registry = bus.registry
  handlers (key : HandlerKey) :
    (bus'.cache.find? key).or (bus.registry.find? key) =
      (bus.cache.find? key).or (bus.registry.find? key)

/-- What two executions of a command come to on buses that are the same for it. -/
structure Execution.Agree (c : Command) (bus bus' : Bus σ) (x x' : Execution σ Unit) :
    Prop where
  same : x.SameButTimes x'
  kept (id : Uuid) (h : c.About id) : x'.bus.store.get? id = x.bus.store.get? id
  registry : x.bus.registry = bus.registry ∧ x'.bus.registry = bus.registry
  found : ∃ looked, Filled bus.cache bus.registry looked x.bus.cache ∧
    Filled bus'.cache bus.registry looked x'.bus.cache

/-- Two commands may look up their handlers in any order. -/
theorem Filled.comm {registry : Registry} {looked looked' : List HandlerKey}
    {before cache cache' after after' : HandlerCache}
    (h : Filled before registry looked cache) (h' : Filled cache registry looked' after)
    (k : Filled before registry looked' cache') (k' : Filled cache' registry looked after')
    (key : HandlerKey) : after'.find? key = after.find? key := by
  rw [k' key, k key, h' key, h key]
  by_cases hl : key ∈ looked <;> by_cases hl' : key ∈ looked' <;> simp [hl, hl']

namespace Command

open Work

theorem exchange_of_ready {c : Command} {role : Role} {scope : Scope} {e : Exchange}
    (h : c.ready = .ok (role, scope, e)) : c.exchange = some e := by
  unfold ready at h
  split at h
  · cases h
  · split at h <;> cases h
    assumption

section Steady

variable {env : Environment σ} (hs : env.parties.Steady) (hk : env.parties.KeepMessageIds)

include hk

/-- A command does nothing to what is kept about messages that it is not about. -/
theorem get?_execute_of_not_about (c : Command) (bus : Bus σ) (supply : Supply) {id : Uuid}
    (h : ¬ c.About id) : (c.execute env bus supply).bus.store.get? id = bus.store.get? id := by
  cases hready : c.ready with
  | error e => rw [execute_of_not_ready env hready]
  | ok ready =>
      obtain ⟨role, scope, e⟩ := ready
      have hne : id ≠ e.messageId := fun heq => h ⟨e, exchange_of_ready hready, heq.symm⟩
      rw [Store.get?, Store.get?, find?_execute_of_ne env hready bus supply hk hne]

include hs

/-- A command comes to the same on buses that are the same for it. -/
theorem execute_agree (c : Command) {bus bus' : Bus σ} (hbus : bus.SameFor c bus')
    {supply supply' : Supply} (hids : supply.SameIds supply')
    (ht : supply.SameTimes supply' ∨ env.parties.IgnoreTimes) :
    Execution.Agree c bus bus' (c.execute env bus supply) (c.execute env bus' supply') := by
  have hnone : ∀ cache : HandlerCache, Filled cache bus.registry [] cache :=
    fun cache key => by simp
  cases hready : c.ready with
  | error e =>
      rw [execute_of_not_ready env hready, execute_of_not_ready env hready]
      exact ⟨⟨rfl, rfl, rfl⟩, hbus.kept, ⟨rfl, hbus.registry⟩, [], hnone _, hnone _⟩
  | ok ready =>
      obtain ⟨role, scope, e⟩ := ready
      have habout := exchange_of_ready hready
      -- the legs that the two executions begin with agree
      let scene : Scene :=
        { id := e.messageId
          registry := bus.registry
          cache := bus.cache
          cache' := bus'.cache
          exact := supply.SameTimes supply'
          handlers := hbus.handlers }
      have hopening : (c.opening role scope e bus supply).Agree scene
          (c.opening role scope e bus' supply') :=
        { role := rfl
          scope := rfl
          exchange := rfl
          handler := rfl
          failed := rfl
          failure := rfl
          signalled := rfl
          closed := rfl
          messageId := rfl
          kept := hbus.kept _ ⟨e, habout, rfl⟩
          registry := ⟨rfl, hbus.registry⟩
          found := ⟨[], hnone _, hnone _⟩
          supply := Supply.Agree.now ⟨hids, id⟩
          calls := rfl }
      obtain ⟨hresult, hend⟩ :=
        related_course (hs.matched hk ht) c role scope _ _ hopening
      constructor
      · -- what the command becomes is read off the end of the leg, but for the times
        constructor
        · rw [execute_result env hready, execute_result env hready, hresult]
        · rw [execute_command env hready, execute_command env hready, timeless, timeless,
            afterLeg, afterLeg, hend.scope, hend.exchange, hend.handler, hend.failed, hend.failure]
          rfl
        · rw [execute_trace env hready, execute_trace env hready, hend.calls]
      · rintro id ⟨e', he', rfl⟩
        obtain rfl : e = e' := Option.some.inj (habout.symm.trans he')
        rw [execute_bus env hready, execute_bus env hready]
        exact hend.kept
      · rw [execute_bus env hready, execute_bus env hready]
        exact hend.registry
      · rw [execute_bus env hready, execute_bus env hready]
        exact hend.found

/-- For a command about other messages, a bus stays the same. -/
theorem sameFor_execute (c c' : Command) (h : ∀ id, c'.About id → ¬ c.About id) (bus : Bus σ)
    (supply : Supply) : bus.SameFor c' (c.execute env bus supply).bus := by
  have hbus : bus.SameFor c bus := ⟨fun _ _ => rfl, rfl, fun _ => rfl⟩
  have hids : supply.SameIds supply := fun _ => rfl
  have htimes : supply.SameTimes supply := fun _ => rfl
  have hagree := execute_agree hs hk c hbus hids (.inl htimes)
  obtain ⟨looked, hfound, -⟩ := hagree.found
  exact ⟨fun id hid => get?_execute_of_not_about hk c bus supply (h id hid), hagree.registry.1,
    hfound.effective⟩

/-- It makes no difference which of two commands about different messages is executed first. Each
takes its own identifiers, the same in both cases, and the times that there are; if these are not
the same, then the transport must not care. -/
theorem execute_comm (a b : Command) (h : ∀ id, a.About id → ¬ b.About id) (bus : Bus σ)
    (sa sa' sb sb' : Supply) (hids : sa.SameIds sa' ∧ sb.SameIds sb')
    (ht : sa.SameTimes sa' ∧ sb.SameTimes sb' ∨ env.parties.IgnoreTimes) :
    let firstA := a.execute env bus sa
    let thenB := b.execute env firstA.bus sb'
    let firstB := b.execute env bus sb
    let thenA := a.execute env firstB.bus sa'
    (∀ id, thenA.bus.store.get? id = thenB.bus.store.get? id) ∧
      (∀ key, thenA.bus.cache.find? key = thenB.bus.cache.find? key) ∧
      firstA.SameButTimes thenA ∧ firstB.SameButTimes thenB := by
  intro firstA thenB firstB thenA
  -- each command finds what it would find if the other had not been executed
  have hba : ∀ id, b.About id → ¬ a.About id := fun id hb ha => h id ha hb
  have hagreeA : Execution.Agree a bus firstB.bus firstA thenA :=
    execute_agree hs hk a (sameFor_execute hs hk b a h bus sb) hids.1 (ht.imp_left And.left)
  have hagreeB : Execution.Agree b bus firstA.bus firstB thenB :=
    execute_agree hs hk b (sameFor_execute hs hk a b hba bus sa) hids.2 (ht.imp_left (·.2))
  refine ⟨fun id => ?_, fun key => ?_, hagreeA.same, hagreeB.same⟩
  · by_cases hb : b.About id
    · -- only the second command is about this message
      calc thenA.bus.store.get? id
        _ = firstB.bus.store.get? id := get?_execute_of_not_about hk a _ _ (hba id hb)
        _ = thenB.bus.store.get? id := (hagreeB.kept id hb).symm
    · have hthenB : thenB.bus.store.get? id = firstA.bus.store.get? id :=
        get?_execute_of_not_about hk b _ _ hb
      rw [hthenB]
      by_cases ha : a.About id
      · exact hagreeA.kept id ha
      · -- neither command is about this message
        calc thenA.bus.store.get? id
          _ = firstB.bus.store.get? id := get?_execute_of_not_about hk a _ _ ha
          _ = bus.store.get? id := get?_execute_of_not_about hk b _ _ hb
          _ = firstA.bus.store.get? id := (get?_execute_of_not_about hk a _ _ ha).symm
  · obtain ⟨looked, hfirstA, hthenA⟩ := hagreeA.found
    obtain ⟨looked', hfirstB, hthenB⟩ := hagreeB.found
    exact hfirstA.comm hthenB hfirstB hthenA key

end Steady

section Books

open Rehearsal

/-- An order of a book, as another message. -/
def otherOrder : Exchange :=
  { bookOrder with context := { bookOrder.context with messageId := .generated 0 } }

/-- A command to place an order. -/
def placement (e : Exchange) : Command :=
  { variant := .requestResponse false, role := some .sender, scope := some .request
    exchange := some e }

/-- The stock may take an order of a book before or after another order is placed. Both are kept
then, and the stock has taken its order. -/
theorem execute_comm_books :
    let env : Environment Unit := { parties := .obliging }
    let bus : Bus Unit := { parties := () }
    let later : Supply := { Supply.counting with times := 5 }
    let taken := (stockRequest bookOrder).execute env bus .counting
    let placed := (placement otherOrder).execute env bus .counting
    let lastPlaced := (placement otherOrder).execute env taken.bus later
    let lastTaken := (stockRequest bookOrder).execute env placed.bus later
    (∀ id, (stockRequest bookOrder).About id → ¬ (placement otherOrder).About id) ∧
      (∀ id, lastTaken.bus.store.get? id = lastPlaced.bus.store.get? id) ∧
      lastTaken.bus.store.get? bookOrder.messageId = some bookOrder ∧
      lastTaken.bus.store.get? otherOrder.messageId = some otherOrder ∧
      taken.SameButTimes lastTaken ∧ lastTaken.command.failure = none := by
  intro env bus later taken placed lastPlaced lastTaken
  have hapart : ∀ id, (stockRequest bookOrder).About id → ¬ (placement otherOrder).About id := by
    rintro id ⟨e, he, rfl⟩ ⟨e', he', hid⟩
    cases he
    cases he'
    exact absurd hid (by decide)
  have hs : env.parties.Steady := Parties.steady_obliging
  have hk : env.parties.KeepMessageIds := Parties.keepMessageIds_obliging
  have hids : Supply.counting.SameIds later := fun _ => rfl
  obtain ⟨hstore, -, hsame, -⟩ := execute_comm hs hk (stockRequest bookOrder)
    (placement otherOrder) hapart bus .counting later .counting later ⟨hids, hids⟩
    (.inr Parties.ignoreTimes_obliging)
  exact ⟨hapart, hstore, (hstore _).trans rfl, (hstore _).trans rfl, hsame, rfl⟩

end Books

end Command

end ServiceBus
