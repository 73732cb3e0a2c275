import ServiceBus.Event
import ServiceBus.Wire.Leaf

set_option autoImplicit false

/-! # Notifications as JSON -/

namespace ServiceBus.Wire

/-- How a notification is read. -/
def eventForm : Form Json Event :=
  Event.mk <$> .required "kind" readWord
    <*> .required "state" readWord
    <*> .required "exchange_id" readUuid
    <*> .required "message_id" readUuid
    <*> .optional "correlation_id" (readOption readText)
    <*> .required "service_id" readText
    <*> .required "operation" readText
    <*> .required "participant_role" readWord
    <*> .required "role" readWord
    <*> .required "scope" readWord
    <*> .optional "reason" (readOption readText)
    <*> .required "recorded_at" readTimestamp

/-- Read a notification. -/
def readEvent (v : Json) : Except DecodeError Event := eventForm.read "struct LifecycleEvent" v

/-- Write a notification. -/
def writeEvent (e : Event) : Json :=
  .object
    [("correlation_id", .ofText? e.correlationId),
      ("exchange_id", writeUuid e.exchangeId),
      ("kind", writeWord e.kind),
      ("message_id", writeUuid e.messageId),
      ("operation", .string e.operation),
      ("participant_role", writeWord e.participantRole),
      ("reason", .ofText? e.reason),
      ("recorded_at", writeTimestamp e.recordedAt),
      ("role", writeWord e.role),
      ("scope", writeWord e.scope),
      ("service_id", .string e.serviceId),
      ("state", writeWord e.state)]

end ServiceBus.Wire
