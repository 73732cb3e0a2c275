import ServiceBus.Context
import ServiceBus.Wire.Leaf

set_option autoImplicit false

/-! # Call contexts as JSON

The JSON form of call contexts and what they consist of. Absent members are written as null. -/

namespace ServiceBus.Wire

/-! ## Policies -/

/-- How a policy is read. -/
def agreedPolicyForm : Form Json AgreedPolicy :=
  AgreedPolicy.mk <$> .required "policy_id" readText
    <*> .defaulted "require_authentication" readFlag false
    <*> .defaulted "required_roles" readNames ∅
    <*> .defaulted "transport_assertions" (readList readText) []

/-- Read a policy. -/
def readAgreedPolicy (v : Json) : Except DecodeError AgreedPolicy :=
  agreedPolicyForm.read "struct AgreedPolicy" v

/-- Write a policy. -/
def writeAgreedPolicy (p : AgreedPolicy) : Json :=
  .object
    [("policy_id", .string p.policyId),
      ("require_authentication", .bool p.requireAuthentication),
      ("required_roles", writeNames p.requiredRoles),
      ("transport_assertions", .array (p.transportAssertions.map .string))]

/-! ## Addresses -/

/-- How an address is read. -/
def endpointReferenceForm : Form Json EndpointReference :=
  EndpointReference.mk <$> .required "address" readText
    <*> .required "service_id" readText
    <*> .optional "correlation_id" (readOption readText)
    <*> .optional "fault_correlation_id" (readOption readText)
    <*> .defaulted "reference_parameters" readDict ∅

/-- Read an address. -/
def readEndpointReference (v : Json) : Except DecodeError EndpointReference :=
  endpointReferenceForm.read "struct EndpointReference" v

/-- Write an address. -/
def writeEndpointReference (r : EndpointReference) : Json :=
  .object
    [("address", .string r.address),
      ("correlation_id", .ofText? r.correlationId),
      ("fault_correlation_id", .ofText? r.faultCorrelationId),
      ("reference_parameters", writeDict r.referenceParameters),
      ("service_id", .string r.serviceId)]

/-! ## Relations -/

/-- How a relation is read. -/
def relationForm : Form Json Relation :=
  Relation.mk <$> .required "message_id" readUuid
    <*> .required "relation" readWord
    <*> .required "recorded_at" readTimestamp

/-- Read a relation. -/
def readRelation (v : Json) : Except DecodeError Relation :=
  relationForm.read "struct Relation" v

/-- Write a relation. -/
def writeRelation (r : Relation) : Json :=
  .object
    [("message_id", writeUuid r.messageId),
      ("recorded_at", writeTimestamp r.recordedAt),
      ("relation", writeWord r.kind)]

/-! ## Contexts -/

/-- How a context is read. -/
def callContextForm : Form Json CallContext :=
  CallContext.mk <$> .required "message_id" readUuid
    <*> .required "created_at" readTimestamp
    <*> .required "relations" (readList readRelation)
    <*> .optional "correlation_id" (readOption readText)
    <*> .optional "fault_correlation_id" (readOption readText)
    <*> .optional "related_at" (readOption readTimestamp)
    <*> .optional "agreed_policy" (readOption readAgreedPolicy)
    <*> .optional "reply_to" (readOption readEndpointReference)
    <*> .defaulted "reference_parameters" readDict ∅

/-- Read a context. -/
def readCallContext (v : Json) : Except DecodeError CallContext :=
  callContextForm.read "struct CallContext" v

/-- Write a context. -/
def writeCallContext (c : CallContext) : Json :=
  .object
    [("agreed_policy", writeOption writeAgreedPolicy c.agreedPolicy),
      ("correlation_id", .ofText? c.correlationId),
      ("created_at", writeTimestamp c.createdAt),
      ("fault_correlation_id", .ofText? c.faultCorrelationId),
      ("message_id", writeUuid c.messageId),
      ("reference_parameters", writeDict c.referenceParameters),
      ("related_at", writeOption writeTimestamp c.relatedAt),
      ("relations", .array (c.relations.map writeRelation)),
      ("reply_to", writeOption writeEndpointReference c.replyTo)]

end ServiceBus.Wire
