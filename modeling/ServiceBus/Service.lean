import ServiceBus.Collection.Table
import ServiceBus.Vocabulary

set_option autoImplicit false

/-! # Services

What the bus knows of services: the operations they declare, with their patterns, and the
operation by which a service takes faults. -/

namespace ServiceBus

/-- An operation of a service. -/
structure Operation where
  serviceId : String
  name : String
  pattern : Pattern
  /-- The operation of the sender that receives asynchronous callbacks. -/
  callbackOperation : Option String := none
  deriving DecidableEq

/-- Whether the sender receives callbacks. -/
def Operation.hasCallback (o : Operation) : Bool := o.callbackOperation.isSome

/-- A service with its operations. -/
structure Service where
  serviceId : String
  operations : List Operation := []
  /-- The operation that carries faults back to the service. -/
  defaultFaultOperation : Option String := none
  deriving DecidableEq

/-- The first operation with the name. -/
def Service.operation? (s : Service) (name : String) : Option Operation :=
  s.operations.find? fun o => o.name = name

/-- The services known under their identifiers. -/
abbrev Directory := Table String Service

namespace Directory

/-- The directory with a service added or replaced. -/
def register (d : Directory) (s : Service) : Directory := d.insert s.serviceId s

/-- The service with the identifier. -/
def describe? (d : Directory) (serviceId : String) : Option Service := d.find? serviceId

/-- The operation by which a service takes faults. -/
def faultOperation? (d : Directory) (serviceId : String) : Option String :=
  (d.describe? serviceId).bind (·.defaultFaultOperation)

end Directory

end ServiceBus
