import ServiceBus.Collection.Table
import ServiceBus.Exchange

set_option autoImplicit false

/-! # Exchanges that wait for a later leg

An exchange that is to be continued is kept under the identifier of its message, with the time
at which it was put there. -/

namespace ServiceBus

/-- An exchange and the time since which it is kept. -/
structure Stored where
  exchange : Exchange
  since : Timestamp
  deriving DecidableEq

/-- The exchanges kept, under the identifiers of their messages. -/
abbrev Store := Table Uuid Stored

namespace Store

/-- The store with the exchange put into it, in place of one about the same message. -/
def persist (s : Store) (e : Exchange) (now : Timestamp) : Store := s.insert e.messageId ⟨e, now⟩

/-- The exchange about a message. -/
def get? (s : Store) (messageId : Uuid) : Option Exchange :=
  (s.find? messageId).map (·.exchange)

/-- The exchange about a message, and the store without it. -/
def release (s : Store) (messageId : Uuid) : Option Exchange × Store :=
  (s.get? messageId, s.erase messageId)

/-- How many exchanges were put in before the time, and the store without them. -/
def purge (s : Store) (cutoff : Timestamp) : Nat × Store :=
  let keep (stored : Stored) : Bool := cutoff ≤ stored.since
  (s.entries.countP fun e => !keep e.2, s.filter fun _ stored => keep stored)

end Store

end ServiceBus
