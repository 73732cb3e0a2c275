import ServiceBus.Collection.Dict

set_option autoImplicit false

/-! # Messages

A message is a text with named headers. Some of the headers may have to be understood by the
receiver before the message is processed. -/

namespace ServiceBus

/-- A text with headers. -/
structure Message where
  body : String
  headers : Dict String := ∅
  /-- The headers that the receiver has to understand. -/
  mustUnderstand : NameSet := ∅
  deriving DecidableEq, Inhabited

namespace Message

/-- The message with a header set. -/
def withHeader (m : Message) (name value : String) : Message :=
  { m with headers := m.headers.insert name value }

/-- The message with a header set that has to be understood. -/
def withRequired (m : Message) (name value : String) : Message :=
  { m.withHeader name value with mustUnderstand := m.mustUnderstand.insert name () }

/-- The value of a header. -/
def header? (m : Message) (name : String) : Option String := m.headers.find? name

/-- The first header, in ascending order, that has to be understood and is not. -/
def notUnderstood? (m : Message) (understood : List String) : Option String :=
  m.mustUnderstand.keys.find? fun name => !understood.contains name

end Message

end ServiceBus
