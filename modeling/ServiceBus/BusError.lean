import ServiceBus.Vocabulary
import ServiceBus.Text.Quoted

set_option autoImplicit false

/-! # Failures

What can go wrong in an exchange. Participants and policies report failures of their own types
(`HandlerError`, `PolicyViolation`), which are taken into the one type of failures that callers
of the bus see (`BusError`). A failure has a message (`text`), a bare reason (`reason`), a fault
kind under which it travels, and a notification that it ends a leg with. -/

namespace ServiceBus

/-- A rejection by a policy. -/
structure PolicyViolation where
  kind : ViolationKind
  reason : String
  deriving DecidableEq

/-- A failure of a participant's handler. -/
inductive HandlerError where
  /-- A failure that the operation declares. -/
  | application (message : String) (detail : Option String)
  /-- Any other failure. -/
  | unexpected (message : String)
  deriving DecidableEq

/-- A failure of an exchange. -/
inductive BusError where
  /-- The transport or the messaging layer failed. -/
  | infrastructure (reason : String)
  /-- The policy rejected the exchange. -/
  | policyViolation (kind : ViolationKind) (reason : String)
  /-- The participant's handler failed. -/
  | participant (operation message : String) (declared : Bool) (detail : Option String)
  /-- No handler takes the message. -/
  | messageNotAccepted (serviceId operation reason : String)
  /-- The other side reported a failure. -/
  | remote (kind : FaultKind) (message : String)
  /-- The provider answered with a fault instead of data. -/
  | providerFault (operation message : String)
  /-- The bus was used without what it needs. -/
  | configuration (reason : String)
  deriving DecidableEq

instance : Inhabited BusError := ⟨.infrastructure ""⟩

/-- The message of a rejection. -/
def PolicyViolation.text (v : PolicyViolation) : String :=
  "Policy violation (" ++ v.kind.title ++ "): " ++ v.reason

/-- The message of a handler's failure. -/
def HandlerError.text : HandlerError → String
  | .application message _ => "Application error: " ++ message
  | .unexpected message => "Unexpected participant failure: " ++ message

namespace BusError

/-- The failure that a rejection by a policy amounts to. -/
def ofViolation (v : PolicyViolation) : BusError := .policyViolation v.kind v.reason

/-- The failure that a handler's failure in an operation amounts to. -/
def ofHandler (operation : String) : HandlerError → BusError
  | .application message detail => .participant operation message true detail
  | .unexpected message => .participant operation message false none

/-- The failure of a value that cannot be put into JSON, or be read from it, as the reader or writer
describes it. -/
def ofSerialization (complaint : String) : BusError :=
  .infrastructure ("JSON serialization error: " ++ complaint)

/-- The message of a failure. -/
def text : BusError → String
  | .infrastructure reason => "Infrastructure failure: " ++ reason
  | .policyViolation kind reason => PolicyViolation.text ⟨kind, reason⟩
  | .participant operation message _ _ => "Participant failure in " ++ operation ++ ": " ++ message
  | .messageNotAccepted serviceId operation reason =>
      "Message not accepted for " ++ serviceId ++ "/" ++ operation ++ ": " ++ reason
  | .remote kind message => "Remote failure (" ++ word kind ++ "): " ++ message
  | .providerFault operation message => "Provider fault for " ++ operation ++ ": " ++ message
  | .configuration reason => "Configuration error: " ++ reason

/-- The reason alone. -/
def reason : BusError → String
  | .infrastructure reason => reason
  | .policyViolation _ reason => reason
  | .participant _ message _ _ => message
  | .messageNotAccepted _ _ reason => reason
  | .remote _ message => message
  | .providerFault _ message => message
  | .configuration reason => reason

/-- The category under which a failure travels in a fault document. -/
def faultKind : BusError → FaultKind
  | .infrastructure _ | .messageNotAccepted _ _ _ => .messaging
  | .policyViolation .authentication _ => .authentication
  | .policyViolation .authorization _ => .authorization
  | .policyViolation .transformation _ | .policyViolation .other _ => .messaging
  | .remote kind _ => kind
  | .participant _ _ _ _ | .providerFault _ _ | .configuration _ => .generic

/-- The stage that a leg ends in with this failure. -/
def lifecycleState : BusError → LifecycleState
  | .infrastructure _ | .remote _ _ => .abortedNet
  | .participant _ _ _ _ => .abortedApp
  | .policyViolation _ _ | .messageNotAccepted _ _ _ | .providerFault _ _ | .configuration _ =>
      .abortedInternal

/-- Whether a policy rejected the exchange. -/
def isPolicyViolation : BusError → Bool
  | .policyViolation _ _ => true
  | _ => false

/-- Whether the participant's handler failed. -/
def isParticipantFailure : BusError → Bool
  | .participant _ _ _ _ => true
  | _ => false

theorem isTerminal_lifecycleState (e : BusError) : e.lifecycleState.isTerminal = true := by
  cases e <;> rfl

end BusError

end ServiceBus
