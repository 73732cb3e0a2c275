import ServiceBus.Collection.Dict
import ServiceBus.Timestamp
import ServiceBus.Uuid
import ServiceBus.Vocabulary

set_option autoImplicit false

/-! # Call contexts

What accompanies an exchange on all its legs: the identifier of its message, the chain of
earlier messages it relates to, correlation identifiers, the policy agreed on, and the address
to which replies and faults go. -/

namespace ServiceBus

/-- The rules both parties have agreed on for an operation. -/
structure AgreedPolicy where
  policyId : String
  /-- Requests carry an authentication token. -/
  requireAuthentication : Bool := false
  /-- The roles that the caller presents; without any, the caller is not checked. -/
  requiredRoles : NameSet := ∅
  /-- What was agreed on for the transport; it is handed on untouched. -/
  transportAssertions : List String := []
  deriving DecidableEq

/-- The address a sender advertises for replies and faults. -/
structure EndpointReference where
  address : String
  serviceId : String
  correlationId : Option String := none
  /-- The correlation identifier of faults, if it is not the regular one. -/
  faultCorrelationId : Option String := none
  referenceParameters : Dict String := ∅
  deriving DecidableEq

/-- An earlier message and how it relates to the present one. -/
structure Relation where
  messageId : Uuid
  kind : RelationKind
  recordedAt : Timestamp
  deriving DecidableEq

/-- The circumstances of an exchange. -/
structure CallContext where
  messageId : Uuid
  createdAt : Timestamp
  relations : List Relation := []
  correlationId : Option String := none
  faultCorrelationId : Option String := none
  relatedAt : Option Timestamp := none
  agreedPolicy : Option AgreedPolicy := none
  replyTo : Option EndpointReference := none
  referenceParameters : Dict String := ∅
  deriving DecidableEq

namespace CallContext

/-- The context with an earlier message added to the end of its chain. -/
def relate (c : CallContext) (messageId : Uuid) (kind : RelationKind) (now : Timestamp) : CallContext :=
  { c with relatedAt := some now, relations := c.relations ++ [⟨messageId, kind, now⟩] }

/-- The correlation identifier that a fault for this context carries. -/
def effectiveFaultCorrelationId (c : CallContext) : Option String :=
  c.faultCorrelationId.or c.correlationId

end CallContext

end ServiceBus
