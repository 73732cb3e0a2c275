import ServiceBus.Failover
import ServiceBus.Policy.Headers
import ServiceBus.Rehearsal.Script

set_option autoImplicit false

/-! # Rehearsals

Parties that follow scripts. The channel uses up its scripts call by call and remembers the
exchanges that it has been given; handlers and policies do the same every time. Candidates for a
failover have scripts of the same kind. -/

namespace ServiceBus.Rehearsal

/-! ## The parties around the bus -/

/-- What a handler understands and how it fails. -/
structure HandlerScript where
  understood : List String := []
  onMessage : Option HandlerError := none
  onError : Option HandlerError := none
  deriving DecidableEq, Inhabited

/-- A leg that a policy rejects. -/
structure Objection where
  role : Role
  scope : Scope
  violation : PolicyViolation
  deriving DecidableEq

/-- What a policy does. -/
inductive PolicyScript where
  /-- Accept everything. -/
  | permissive
  /-- Check the headers of requests. -/
  | headers
  /-- Append to the bodies of all messages, change the exchange, and reject some legs. -/
  | rules (append : Option String) (change : Change) (objections : List Objection)
  deriving DecidableEq

/-- What the channel still has to do, and the exchanges it has been given, as it left them. -/
structure Channel where
  sendSync : List Outcome := []
  send : List (Option BusError) := []
  acknowledge : List (Option BusError) := []
  refuse : List (Option BusError) := []
  sent : List Exchange := []
  deriving DecidableEq, Inhabited

/-- The message with a text behind its body. -/
def extend (m : Message) (text : String) : Message := { m with body := m.body ++ text }

/-- The exchange with a text behind the body of every message. -/
def extendAll (e : Exchange) (text : String) : Exchange :=
  { e with
    input := e.input.map (extend · text)
    output := e.output.map (extend · text)
    fault := e.fault.map (extend · text) }

/-- The policy's ruling on a leg. -/
def PolicyScript.enforce (p : PolicyScript) (e : Exchange) (role : Role)
    (policy : Option AgreedPolicy) (scope : Scope) : Ruling :=
  match p with
  | .permissive => Policy.permissive e role policy scope
  | .headers => Policy.byHeaders e role policy scope
  | .rules append change objections =>
      let e :=
        match append with
        | some text => extendAll e text
        | none => e
      { exchange := change.apply e
        violation :=
          (objections.find? fun o => o.role = role && o.scope = scope).map (·.violation) }

namespace Channel

/-- Take an exchange without an answer. -/
def take (c : Channel) (e : Exchange) : Option BusError × Channel :=
  let (failure, rest) := cue c.send
  (failure, { c with send := rest, sent := c.sent ++ [e] })

/-- Take an exchange and answer. What comes back late is not remembered. -/
def exchange (c : Channel) (e : Exchange) (limit : Nat) : Answer × Channel :=
  let (outcome, rest) := cue c.sendSync
  let answer := outcome.answer e limit
  (answer,
    { c with
      sendSync := rest
      sent :=
        if (answer.completion.within limit).isSome then c.sent ++ [answer.exchange] else c.sent })

/-- Learn that a leg has succeeded. -/
def acknowledged (c : Channel) : Option BusError × Channel :=
  let (failure, rest) := cue c.acknowledge
  (failure, { c with acknowledge := rest })

/-- Learn that a leg has failed. -/
def refused (c : Channel) : Option BusError × Channel :=
  let (failure, rest) := cue c.refuse
  (failure, { c with refuse := rest })

end Channel

/-- The parties that follow the scripts. A handler without a script succeeds. -/
def parties (handlers : Dict HandlerScript) (policy : PolicyScript) : Parties Channel where
  enforce e role agreed scope channel := (policy.enforce e role agreed scope, channel)
  understood handler _ := ((handlers.find? handler).getD {}).understood
  handleMessage handler _ channel := (((handlers.find? handler).getD {}).onMessage, channel)
  handleError handler _ _ channel := (((handlers.find? handler).getD {}).onError, channel)
  send e channel := channel.take e
  sendSync e limit channel := channel.exchange e limit
  acknowledge _ channel := channel.acknowledged
  refuse _ _ channel := channel.refused
  notify _ channel := channel

/-! ## Candidates -/

/-- What a candidate does: the outcomes of its sends, or why it makes no exchanges. -/
structure CandidateScript where
  endpoint : String
  outcomes : List Outcome := []
  failure : Option BusError := none
  deriving DecidableEq

/-- The candidate that follows the script with the index `i` in a list of outcomes. -/
def candidate (script : CandidateScript) (i : Nat) : Failover.Candidate (List (List Outcome)) where
  endpoint := script.endpoint
  create o context id remaining :=
    (match script.failure with
      | some e => .error e
      | none => .ok (Failover.exchangeFor script.endpoint o context id), remaining)
  send e limit remaining :=
    let (outcome, rest) := cue (remaining.getD i [])
    (outcome.answer e limit, remaining.set i rest)

/-- Read answers by `read?`. What is said about those that cannot be read is left to
`complaint`. -/
def reader {α : Type} (read? : String → Option α) (complaint : String → String) (s : String) :
    Except String α :=
  match read? s with
  | some a => .ok a
  | none => .error (complaint s)

/-- The candidates that follow the scripts, and their outcomes to begin with. -/
def candidates (scripts : List CandidateScript) :
    List (Failover.Candidate (List (List Outcome))) × List (List Outcome) :=
  (scripts.zipIdx.map fun p => candidate p.1 p.2, scripts.map (·.outcomes))

end ServiceBus.Rehearsal
