import ServiceBus.Exchange
import ServiceBus.Wire.Context

set_option autoImplicit false

/-! # Exchanges as JSON

The JSON form of messages, of the failures that transports mark exchanges with, and of
exchanges. A failure is written as its type and its data, next to each other. -/

namespace ServiceBus.Wire

/-! ## Messages -/

/-- How a message is read. -/
def messageForm : Form Json Message :=
  Message.mk <$> .required "body" readText
    <*> .required "headers" readDict
    <*> .defaulted "must_understand" readNames ∅

/-- Read a message. -/
def readMessage (v : Json) : Except DecodeError Message := messageForm.read "struct Message" v

/-- Write a message. -/
def writeMessage (m : Message) : Json :=
  .object
    [("body", .string m.body),
      ("headers", writeDict m.headers),
      ("must_understand", writeNames m.mustUnderstand)]

/-! ## Failures -/

/-- The types of failures. -/
inductive FailureType where
  | remoteFault
  | transport
  deriving DecidableEq

instance : Vocabulary FailureType where
  all := [.remoteFault, .transport]
  word
    | .remoteFault => "remote_fault"
    | .transport => "transport"

/-- How the data of a failure are read. -/
def failureForm : FailureType → Form Json ExchangeFailure
  | .remoteFault => ExchangeFailure.remoteFault <$> .required "document" readText
  | .transport => ExchangeFailure.transport <$> .required "reason" readText

/-- The record that the data of a failure are. -/
def FailureType.record : FailureType → String
  | .remoteFault => "struct variant ExchangeFailure::RemoteFault"
  | .transport => "struct variant ExchangeFailure::Transport"

/-- What a failure is called where there is none. -/
def failureRecord : String := "adjacently tagged enum ExchangeFailure"

/-- Read a failure. Its type is looked at before its data. -/
def readFailure : Json → Except DecodeError ExchangeFailure
  | .object members =>
      match members.lookup "type" with
      | none => .error (.missingField "type")
      | some tag =>
          match readWord tag with
          | .error e => .error e
          | .ok t =>
              match members.lookup "data" with
              | none => .error (.missingField "data")
              | some data => (failureForm t).readAgain t.record data
  | .array (tag :: items) =>
      match readWord tag with
      | .error e => .error e
      | .ok t =>
          match items with
          | [] => .error (.invalidLength 1 failureRecord)
          | data :: rest =>
              match (failureForm t).read t.record data with
              | .error e => .error e
              | .ok failure =>
                  if rest.isEmpty then .ok failure
                  else .error (.invalidLength (rest.length + 2) "fewer elements in array")
  | .array [] => .error (.invalidLength 0 failureRecord)
  | v => unexpected v failureRecord

/-- Write a failure. -/
def writeFailure : ExchangeFailure → Json
  | .remoteFault document =>
      .object
        [("data", .object [("document", .string document)]),
          ("type", writeWord FailureType.remoteFault)]
  | .transport reason =>
      .object
        [("data", .object [("reason", .string reason)]), ("type", writeWord FailureType.transport)]

/-! ## Exchanges -/

/-- How an exchange is read. -/
def exchangeForm : Form Json Exchange :=
  Exchange.mk <$> .required "id" readUuid
    <*> .required "pattern" readWord
    <*> .required "status" readWord
    <*> .required "service_id" readText
    <*> .required "operation" readText
    <*> .optional "target" (readOption readText)
    <*> .required "context" readCallContext
    <*> .optional "in_message" (readOption readMessage)
    <*> .optional "out_message" (readOption readMessage)
    <*> .optional "fault" (readOption readMessage)
    <*> .optional "failure" (readOption readFailure)

/-- Read an exchange. -/
def readExchange (v : Json) : Except DecodeError Exchange := exchangeForm.read "struct Exchange" v

/-- Write an exchange. -/
def writeExchange (e : Exchange) : Json :=
  .object
    [("context", writeCallContext e.context),
      ("failure", writeOption writeFailure e.failure),
      ("fault", writeOption writeMessage e.fault),
      ("id", writeUuid e.id),
      ("in_message", writeOption writeMessage e.input),
      ("operation", .string e.operation),
      ("out_message", writeOption writeMessage e.output),
      ("pattern", writeWord e.pattern),
      ("service_id", .string e.serviceId),
      ("status", writeWord e.status),
      ("target", .ofText? e.target)]

end ServiceBus.Wire
