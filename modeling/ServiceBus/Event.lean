import ServiceBus.Exchange

set_option autoImplicit false

/-! # Notifications

A notification records that a leg of an exchange has reached a stage, for those who monitor the
bus. -/

namespace ServiceBus

/-- A leg of an exchange has reached a stage. -/
structure Event where
  kind : NotificationKind
  state : LifecycleState
  exchangeId : Uuid
  messageId : Uuid
  correlationId : Option String
  serviceId : String
  operation : String
  participantRole : ParticipantRole
  role : Role
  scope : Scope
  reason : Option String
  recordedAt : Timestamp
  deriving DecidableEq

/-- The notification about a leg of an exchange. -/
def Event.ofExchange (e : Exchange) (role : Role) (scope : Scope) (kind : NotificationKind)
    (state : LifecycleState) (reason : Option String) (now : Timestamp) : Event where
  kind := kind
  state := state
  exchangeId := e.id
  messageId := e.messageId
  correlationId := e.context.correlationId
  serviceId := e.serviceId
  operation := e.operation
  participantRole := role.participant
  role := role
  scope := scope
  reason := reason
  recordedAt := now

end ServiceBus
