import ServiceBus.Event
import ServiceBus.Handler
import ServiceBus.Service
import ServiceBus.Settings
import ServiceBus.Store

set_option autoImplicit false

/-! # The parties around the bus

The bus asks others to do things: a policy to judge an exchange, handlers to take messages and
errors, a channel to deliver exchanges and to be told how they ended, and monitoring to take
notifications. `Parties σ` is their behaviour, which may be anything that depends on what they
are asked and on a state `σ` of their own.

An `Environment` is what all commands share and do not change; a `Bus` is what they share and
do change. What a command asks of the parties is recorded, with the answers, as a list of
`Entry`. -/

namespace ServiceBus

/-! ## Questions and answers -/

/-- What a policy makes of an exchange: it may change the exchange, and may reject it. -/
structure Ruling where
  exchange : Exchange
  violation : Option PolicyViolation
  deriving DecidableEq

/-- When a synchronous send comes back, and with which failure. -/
inductive Completion where
  | after (milliseconds : Nat) (failure : Option BusError)
  | never
  deriving DecidableEq

/-- A synchronous send: the exchange as the transport leaves it, and when it comes back. -/
structure Answer where
  exchange : Exchange
  completion : Completion
  deriving DecidableEq

/-- Whether and how a send has come back within a time limit. -/
def Completion.within (limit : Nat) : Completion → Option (Option BusError)
  | .after milliseconds failure => if milliseconds ≤ limit then some failure else none
  | .never => none

/-- The failure of a synchronous send under a time limit, if it fails. -/
def Answer.failure? (a : Answer) (limit : Nat) : Option BusError :=
  match a.completion.within limit with
  | some failure => failure
  | none =>
      some (.infrastructure
        ("No response for " ++ a.exchange.serviceId ++ "/" ++ a.exchange.operation ++ " within " ++
          toString limit ++ "ms"))

/-- A message as a participant gets it. -/
structure Incoming where
  exchangeId : Uuid
  serviceId : String
  operation : String
  role : Role
  scope : Scope
  message : Message
  context : CallContext
  deriving DecidableEq

/-- The behaviour of the parties. Where a failure is optional, none means success. -/
structure Parties (σ : Type) where
  /-- The policy judges a leg of an exchange by the policy agreed on. -/
  enforce : Exchange → Role → Option AgreedPolicy → Scope → σ → Ruling × σ
  /-- The headers that a handler understands. -/
  understood : HandlerName → σ → List String
  /-- A handler takes a message. -/
  handleMessage : HandlerName → Incoming → σ → Option HandlerError × σ
  /-- A handler takes a failure. -/
  handleError : HandlerName → BusError → CallContext → σ → Option HandlerError × σ
  /-- The transport takes an exchange without waiting for an answer. -/
  send : Exchange → σ → Option BusError × σ
  /-- The transport takes an exchange, under a time limit in milliseconds, and answers. -/
  sendSync : Exchange → Nat → σ → Answer × σ
  /-- The transport learns that a leg has succeeded. -/
  acknowledge : Exchange → σ → Option BusError × σ
  /-- The transport learns that a leg has failed, and why. -/
  refuse : Exchange → BusError → σ → Option BusError × σ
  /-- Monitoring takes a notification. -/
  notify : Event → σ → σ

/-! ## What is shared -/

/-- What commands share and do not change. -/
structure Environment (σ : Type) where
  parties : Parties σ
  directory : Directory := ∅
  settings : Settings := {}

/-- What commands share and change. -/
structure Bus (σ : Type) where
  /-- The state of the parties. -/
  parties : σ
  store : Store := ∅
  registry : Registry := ∅
  cache : HandlerCache := ∅

/-- An environment with valid settings, or the setting that is not allowed. -/
def Environment.build {σ : Type} (parties : Parties σ) (directory : Directory) (settings : Settings) :
    Except InvalidSetting (Environment σ) :=
  match settings.invalid? with
  | some invalid => .error invalid
  | none => .ok ⟨parties, directory, settings⟩

/-! ## What is recorded -/

/-- A question to a party and its answer. -/
inductive Call where
  | policy (exchange : Exchange) (role : Role) (scope : Scope) (ruling : Ruling)
  | send (exchange : Exchange) (failure : Option BusError)
  | sendSync (exchange : Exchange) (limit : Nat) (answer : Answer)
  | acknowledge (exchange : Exchange) (failure : Option BusError)
  | refuse (exchange : Exchange) (cause : BusError) (failure : Option BusError)
  | handleMessage (handler : HandlerName) (incoming : Incoming) (failure : Option HandlerError)
  | handleError (handler : HandlerName) (error : BusError) (context : CallContext)
      (failure : Option HandlerError)
  | notify (event : Event)
  deriving DecidableEq

/-- A call and the exchanges that were kept at that moment. -/
structure Entry where
  call : Call
  store : Store
  deriving DecidableEq

/-! ## Identifiers and times -/

/-- Where new identifiers and clock readings come from, and how many have been taken. -/
structure Supply where
  id : Nat → Uuid
  time : Nat → Timestamp
  ids : Nat := 0
  times : Nat := 0

namespace Supply

/-- The next identifier. -/
def nextId (s : Supply) : Uuid × Supply := (s.id s.ids, { s with ids := s.ids + 1 })

/-- The next clock reading. -/
def now (s : Supply) : Timestamp × Supply := (s.time s.times, { s with times := s.times + 1 })

/-- Numbered identifiers, and a clock that is one nanosecond further at each reading. -/
def counting : Supply where
  id := Uuid.generated
  time := Timestamp.within 2024

end Supply

end ServiceBus
