import ServiceBus.Failover.Cursor
import ServiceBus.Json.Printer
import ServiceBus.Parties

set_option autoImplicit false

/-! # Calls with several candidate endpoints

A call is made to the candidates of a ranked list, one after the other, until one of them
answers. A candidate that cannot be reached, that is late, or whose transport marks the exchange
as failed gives way to the next; a candidate that cannot even make an exchange ends the call,
and so does an answer, be it a fault. When all have failed, their failures are put together into
one, which has their kind if they all have the same. -/

namespace ServiceBus.Failover

/-- An endpoint that may serve a call. Its behaviour may depend on a state `σ` shared with the
other candidates. -/
structure Candidate (σ : Type) where
  /-- The address to which exchanges for the candidate are directed. -/
  endpoint : String
  /-- Make an exchange for an operation, with the given identifier. -/
  create : Operation → CallContext → Uuid → σ → Except BusError Exchange × σ
  /-- Send an exchange under a time limit in milliseconds. -/
  send : Exchange → Nat → σ → Answer × σ

/-- The exchange for an operation that is addressed to an endpoint. -/
def exchangeFor (endpoint : String) (o : Operation) (context : CallContext) (id : Uuid) : Exchange where
  id := id
  pattern := o.pattern
  serviceId := o.serviceId
  operation := o.name
  target := some endpoint
  context := context

/-- An attempt that failed. -/
structure Failure where
  endpoint : String
  error : BusError
  deriving DecidableEq

/-- The failed attempt in words. -/
def Failure.text (f : Failure) : String := f.endpoint ++ ": " ++ f.error.text

/-- An attempt: the exchange that was sent, and what came of it. -/
structure Attempt where
  endpoint : String
  exchange : Exchange
  limit : Nat
  answer : Answer
  deriving DecidableEq

/-- Why the attempt failed, if it did. -/
def Attempt.failure? (a : Attempt) : Option BusError :=
  match a.answer.completion.within a.limit with
  | none =>
      some (.infrastructure
        (a.endpoint ++ " did not answer within " ++ toString a.limit ++ "ms"))
  | some (some e) => some e
  | some none =>
      if a.answer.exchange.isError then some a.answer.exchange.failureError else none

/-- A ranked list of candidates, and how they are called. -/
structure Controller (σ : Type) where
  candidates : List (Candidate σ)
  /-- The time limit of every attempt, in milliseconds. -/
  callTimeout : Nat
  /-- The policy that every exchange is given. -/
  policy : Option AgreedPolicy := none

/-! ## Failures and answers -/

/-- The kind that all failures have in common. -/
def commonKind (failures : List Failure) : FaultKind :=
  match failures with
  | [] => .generic
  | first :: _ =>
      if failures.all fun f => f.error.faultKind = first.error.faultKind then first.error.faultKind
      else .generic

/-- The failure of a call all of whose attempts failed. -/
def combine (operation : String) (failures : List Failure) : BusError :=
  .remote (commonKind failures)
    ("All " ++ toString failures.length ++ " candidate(s) failed for " ++ operation ++ ": [" ++
      String.intercalate "; " (failures.map Failure.text) ++ "]")

/-- The message with a request, which the writer has put into JSON or complained about. -/
def requestMessage (request : Except String Json) : Except BusError Message :=
  (request.map Message.ofJson).mapError BusError.ofSerialization

/-- The answer that the slots of an exchange hold: a fault is the provider's, and an output is
read by `decode`, which complains about what it cannot read. -/
def readAnswer {α : Type} (decode : String → Except String α) (operation : String)
    (output fault : Option Message) : Except BusError α :=
  match fault, output with
  | some fault, _ =>
      .error (.providerFault operation
        (match FaultDocument.ofText? fault.body with
        | some document => document.reason
        | none => fault.body))
  | none, none => .error (.infrastructure ("Empty response for " ++ operation))
  | none, some output => (decode output.body).mapError BusError.ofSerialization

/-! ## The call -/

/-- A call under way: its cursor, where identifiers come from, the state of the candidates, and
what has happened so far. -/
structure Run (σ : Type) where
  cursor : Cursor
  supply : Supply
  parties : σ
  attempts : List Attempt := []
  failures : List Failure := []

namespace Controller

variable {σ α : Type}

/-- A cursor for a new call. -/
def begin (c : Controller σ) : Cursor := { candidates := c.candidates.length }

/-- An exchange for the next candidate, if there is one. -/
def next (c : Controller σ) (o : Operation) (r : Run σ) :
    Except BusError (Option (Exchange × Candidate σ)) × Run σ :=
  match r.cursor.advance with
  | (none, cursor) => (.ok none, { r with cursor := cursor })
  | (some index, cursor) =>
      match c.candidates[index]? with
      | none =>
          (.error (.configuration
            ("Cursor index " ++ toString index ++ " outside of " ++ toString c.candidates.length ++
              " candidates")), { r with cursor := cursor })
      | some candidate =>
          let (messageId, supply) := r.supply.nextId
          let (created, supply) := supply.now
          let (id, supply) := supply.nextId
          let context : CallContext :=
            { messageId := messageId, createdAt := created, agreedPolicy := c.policy }
          let (result, parties) := candidate.create o context id r.parties
          (result.map fun e => some (e, candidate),
            { r with cursor := cursor, supply := supply, parties := parties })

/-- Send an exchange to a candidate. -/
def attempt (c : Controller σ) (candidate : Candidate σ) (e : Exchange) (r : Run σ) :
    Attempt × Run σ :=
  let (answer, parties) := candidate.send e c.callTimeout r.parties
  let a : Attempt := ⟨candidate.endpoint, e, c.callTimeout, answer⟩
  (a, { r with parties := parties, attempts := r.attempts ++ [a] })

/-- Try the candidates from the cursor on; `fuel` of them are tried at most. -/
def tryFrom (c : Controller σ) (decode : String → Except String α) (o : Operation)
    (payload : Message) : Nat → Run σ → Except BusError α × Run σ
  | 0, r => (.error (combine o.name r.failures), r)
  | fuel + 1, r =>
      match c.next o r with
      | (.error e, r) => (.error e, r)
      | (.ok none, r) => (.error (combine o.name r.failures), r)
      | (.ok (some (e, candidate)), r) =>
          let (a, r) := c.attempt candidate { e with input := some payload } r
          match a.failure? with
          | none =>
              (readAnswer decode o.name a.answer.exchange.output a.answer.exchange.fault,
                { r with cursor := r.cursor.succeed })
          | some failure =>
              tryFrom c decode o payload fuel
                { r with failures := r.failures ++ [⟨candidate.endpoint, failure⟩] }

/-- Call an operation with the text of a request, and read the answer by `decode`. A request that
cannot be put into JSON is not sent to anybody. -/
def invoke (c : Controller σ) (decode : String → Except String α) (o : Operation)
    (request : Except String Json) (supply : Supply) (parties : σ) : Except BusError α × Run σ :=
  let r : Run σ := { cursor := c.begin, supply := supply, parties := parties }
  if c.candidates.isEmpty then
    (.error (.configuration
      ("No resilience factory available for " ++ o.serviceId ++ "/" ++ o.name)), r)
  else
    match requestMessage request with
    | .error e => (.error e, r)
    | .ok payload => c.tryFrom decode o payload (c.candidates.length + 1) r

end Controller

end ServiceBus.Failover
