set_option autoImplicit false

/-! # The words of the bus

The closed lists of words that exchanges, faults and notifications are described with. Each type
lists its values and gives each the word by which it goes in documents; reading a word back is
then the same for all of them (`Vocabulary.ofWord?`). -/

namespace ServiceBus

/-- A closed list of values, each with a word of its own. -/
class Vocabulary (α : Type) where
  all : List α
  word : α → String

namespace Vocabulary

variable {α : Type} [Vocabulary α]

/-- The value with the given word. -/
def ofWord? (s : String) : Option α := (all : List α).find? fun a => word a = s

/-- The words, in the order of the list. -/
def words (α : Type) [Vocabulary α] : List String := (all : List α).map word

end Vocabulary

export Vocabulary (word)

/-! ## Exchanges -/

/-- Whether the local participant began the exchange or is invoked by it. -/
inductive Role where
  | sender
  | receiver
  deriving DecidableEq, Repr, Inhabited

/-- The half of an exchange that is being worked on. -/
inductive Scope where
  | request
  | response
  deriving DecidableEq, Repr, Inhabited

/-- How an exchange stands. -/
inductive Status where
  | active
  | done
  /-- Set by the transport; the leg is over. -/
  | error
  deriving DecidableEq, Repr, Inhabited

/-- The pattern of messages that an operation declares. -/
inductive Pattern where
  /-- A request without an answer. -/
  | oneWay
  /-- A request and its response. -/
  | inOut
  /-- A request without an answer, with a way back for faults. -/
  | robustOneWay
  deriving DecidableEq, Repr, Inhabited

/-- The part a participant plays, as monitoring calls it. -/
inductive ParticipantRole where
  | consumer
  | provider
  deriving DecidableEq, Repr, Inhabited

/-- How an earlier message relates to the present one. -/
inductive RelationKind where
  | reply
  | fault
  | callback
  deriving DecidableEq, Repr, Inhabited

instance : Vocabulary Role where
  all := [.sender, .receiver]
  word
    | .sender => "sender"
    | .receiver => "receiver"

instance : Vocabulary Scope where
  all := [.request, .response]
  word
    | .request => "request"
    | .response => "response"

instance : Vocabulary Status where
  all := [.active, .done, .error]
  word
    | .active => "active"
    | .done => "done"
    | .error => "error"

instance : Vocabulary Pattern where
  all := [.oneWay, .inOut, .robustOneWay]
  word
    | .oneWay => "one_way"
    | .inOut => "in_out"
    | .robustOneWay => "robust_one_way"

instance : Vocabulary ParticipantRole where
  all := [.consumer, .provider]
  word
    | .consumer => "consumer"
    | .provider => "provider"

instance : Vocabulary RelationKind where
  all := [.reply, .fault, .callback]
  word
    | .reply => "reply"
    | .fault => "fault"
    | .callback => "callback"

/-- The participant that began an exchange consumes, the one invoked by it provides. -/
def Role.participant : Role → ParticipantRole
  | .sender => .consumer
  | .receiver => .provider

/-- Whether the transport has marked the leg as failed. -/
def Status.isError : Status → Bool
  | .error => true
  | .active | .done => false

/-- Whether a response leads back to the sender. -/
def Pattern.expectsResponse : Pattern → Bool
  | .inOut => true
  | .oneWay | .robustOneWay => false

/-! ## Faults -/

/-- The coarse category of a failure, as fault documents carry it. -/
inductive FaultKind where
  /-- The message could not be processed on its way. -/
  | messaging
  /-- The caller could not be authenticated. -/
  | authentication
  /-- The caller is not allowed to invoke the operation. -/
  | authorization
  /-- Anything else. -/
  | generic
  deriving DecidableEq, Repr, Inhabited

/-- The kind of rule by which a policy rejects an exchange. -/
inductive ViolationKind where
  | authentication
  | authorization
  | transformation
  | other
  deriving DecidableEq, Repr, Inhabited

instance : Vocabulary FaultKind where
  all := [.messaging, .authentication, .authorization, .generic]
  word
    | .messaging => "messaging"
    | .authentication => "authentication"
    | .authorization => "authorization"
    | .generic => "generic"

instance : Vocabulary ViolationKind where
  all := [.authentication, .authorization, .transformation, .other]
  word
    | .authentication => "authentication"
    | .authorization => "authorization"
    | .transformation => "transformation"
    | .other => "other"

/-- The name by which older participants know the kind of a failure. -/
def FaultKind.legacyName : FaultKind → String
  | .messaging => "MessagingException"
  | .authentication => "AuthenticationException"
  | .authorization => "AuthorizationException"
  | .generic => "RemoteException"

/-- The kind of a violation, as diagnostics write it. -/
def ViolationKind.title : ViolationKind → String
  | .authentication => "Authentication"
  | .authorization => "Authorization"
  | .transformation => "Transformation"
  | .other => "Other"

/-! ## Words from users -/

/-- The value with the given word; `noun` says what is looked for. -/
def Vocabulary.read {α : Type} [Vocabulary α] (noun s : String) : Except String α :=
  match Vocabulary.ofWord? s with
  | some a => .ok a
  | none => .error ("Invalid " ++ noun ++ ": " ++ s)

/-- The fault kind with the given word. -/
def FaultKind.read (s : String) : Except String FaultKind := Vocabulary.read "fault kind" s

/-- The pattern with the given word. -/
def Pattern.read (s : String) : Except String Pattern := Vocabulary.read "exchange pattern" s

/-! ## Notifications -/

/-- What a notification is about. -/
inductive NotificationKind where
  /-- The regular progress of an exchange. -/
  | exchange
  /-- A fault was sent or dropped. -/
  | fault
  deriving DecidableEq, Repr, Inhabited

/-- The stage that a leg has reached. -/
inductive LifecycleState where
  /-- Received from the network. -/
  | netInPost
  /-- Handed to the network. -/
  | netOutPost
  /-- Delivered to the participant. -/
  | appIn
  /-- Completed. -/
  | finished
  /-- Aborted by the network. -/
  | abortedNet
  /-- Aborted by the participant. -/
  | abortedApp
  /-- Aborted inside the bus. -/
  | abortedInternal
  deriving DecidableEq, Repr, Inhabited

instance : Vocabulary NotificationKind where
  all := [.exchange, .fault]
  word
    | .exchange => "exchange"
    | .fault => "fault"

instance : Vocabulary LifecycleState where
  all := [.netInPost, .netOutPost, .appIn, .finished, .abortedNet, .abortedApp, .abortedInternal]
  word
    | .netInPost => "net_in_post"
    | .netOutPost => "net_out_post"
    | .appIn => "app_in"
    | .finished => "finished"
    | .abortedNet => "aborted_net"
    | .abortedApp => "aborted_app"
    | .abortedInternal => "aborted_internal"

/-- Whether the stage says that something went wrong. -/
def LifecycleState.isAborted : LifecycleState → Bool
  | .abortedNet | .abortedApp | .abortedInternal => true
  | .netInPost | .netOutPost | .appIn | .finished => false

/-- Whether the stage closes a leg. -/
def LifecycleState.isTerminal (s : LifecycleState) : Bool := s = .finished || s.isAborted

/-- The name under which the stage is published. -/
def LifecycleState.eventName (s : LifecycleState) : String := "exchange." ++ word s

end ServiceBus
