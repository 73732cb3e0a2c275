import ServiceBus.Event

set_option autoImplicit false

/-! # Broadcasting notifications

A publisher hands every notification to all that listen at the time. It keeps the latest
notifications up to its capacity; a listener that falls behind by more than that is told how
many it has lost and goes on with the oldest one kept. Nothing is kept while nobody listens. -/

namespace ServiceBus

/-- A publisher and those who listen to it, under their names. -/
structure Publisher where
  /-- How many notifications are kept for a slow listener. -/
  capacity : Nat
  /-- The notifications kept, the latest first. -/
  kept : List Event := []
  /-- How many notifications have been kept in all. -/
  count : Nat := 0
  /-- Each listener with the number of notifications it is past. -/
  listeners : List (String × Nat) := []

/-- What a listener receives. -/
inductive Reception where
  | event (e : Event)
  | empty
  /-- So many notifications were lost. -/
  | lagged (lost : Nat)
  deriving DecidableEq

namespace Publisher

/-- The least power of two, from `p` on, that is at least `n`; `fuel` doublings are tried. -/
def roundUp (n : Nat) : Nat → Nat → Nat
  | 0, p => p
  | fuel + 1, p => if n ≤ p then p else roundUp n fuel (2 * p)

/-- A publisher for at least the given number of notifications. -/
def new (capacity : Nat) : Publisher := ⟨roundUp capacity capacity 1, [], 0, []⟩

/-- Whether someone listens under the name. -/
def hears (p : Publisher) (name : String) : Bool := p.listeners.any fun l => l.1 = name

/-- Listening under the name ends. -/
def leave (p : Publisher) (name : String) : Publisher :=
  { p with listeners := p.listeners.filter fun l => l.1 ≠ name }

/-- Listening under the name begins, with the next notification. -/
def join (p : Publisher) (name : String) : Publisher :=
  let p := p.leave name
  { p with listeners := p.listeners ++ [(name, p.count)] }

/-- Hand a notification to all listeners. -/
def publish (p : Publisher) (e : Event) : Publisher :=
  if p.listeners.isEmpty then p
  else { p with kept := (e :: p.kept).take p.capacity, count := p.count + 1 }

/-- How many notifications are no longer kept. -/
def dropped (p : Publisher) : Nat := p.count - p.kept.length

/-- The listener is past `past` notifications. -/
def moveTo (p : Publisher) (name : String) (past : Nat) : Publisher :=
  { p with listeners := p.listeners.map fun l => if l.1 = name then (name, past) else l }

/-- The next thing for a listener that is past `past` notifications, and where it is then. -/
def receiveAt (p : Publisher) (past : Nat) : Reception × Nat :=
  if past < p.dropped then (.lagged (p.dropped - past), p.dropped)
  else if past < p.count then
    match p.kept.reverse[past - p.dropped]? with
    | some e => (.event e, past + 1)
    | none => (.empty, past)
  else (.empty, past)

/-- The next thing for a listener; nothing when nobody listens under the name. -/
def receive (p : Publisher) (name : String) : Option (Reception × Publisher) :=
  (p.listeners.lookup name).map fun past =>
    let (received, past) := p.receiveAt past
    (received, p.moveTo name past)

end Publisher

end ServiceBus
