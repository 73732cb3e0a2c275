import ServiceBus.Parties

set_option autoImplicit false

/-! # Work on a leg

A leg is one half of an exchange as the local participant goes through it. `Leg` is what is
known while it is worked on; `Work` is a piece of that work, which may fail, and of which
everything done before the failure stays done.

The effects of the work are the calls to the parties, each of which is recorded, and changes to
the store. Two marks on the leg see to it that its end is signalled at most once to the
transport and that its end is notified: `signalled` is set with the first acknowledgement or
refusal, `closed` with the first terminal notification. -/

namespace ServiceBus

/-- A half of an exchange that is being worked on. -/
structure Leg (σ : Type) where
  role : Role
  /-- A synchronous round trip moves on from the request to the response. -/
  scope : Scope
  exchange : Exchange
  /-- The participant's handler, once it is known. -/
  handler : Option HandlerName
  /-- The command will report a failure. -/
  failed : Bool := false
  /-- The failure that the command will report. -/
  failure : Option BusError := none
  /-- The transport has been told that the leg is over. -/
  signalled : Bool := false
  /-- A terminal notification has been made. -/
  closed : Bool := false
  bus : Bus σ
  supply : Supply
  trace : List Entry := []

/-- A message as the participant of the leg gets it. -/
def Leg.incoming {σ : Type} (l : Leg σ) (message : Message) : Incoming :=
  { exchangeId := l.exchange.id
    serviceId := l.exchange.serviceId
    operation := l.exchange.operation
    role := l.role
    scope := l.scope
    message := message
    context := l.exchange.context }

/-- The leg with a failure that the command will report. -/
def Leg.failing {σ : Type} (l : Leg σ) (e : BusError) : Leg σ :=
  { l with failed := true, failure := some e }

/-- A piece of work on a leg. -/
def Work (σ α : Type) : Type := Leg σ → Except BusError α × Leg σ

namespace Work

variable {σ α β : Type}

/-- Work that does nothing. -/
def done (a : α) : Work σ α := fun leg => (.ok a, leg)

/-- One piece of work and then another, unless the first fails. -/
def andThen (x : Work σ α) (f : α → Work σ β) : Work σ β := fun leg =>
  match x leg with
  | (.ok a, leg) => f a leg
  | (.error e, leg) => (.error e, leg)

instance : Monad (Work σ) where
  pure := done
  bind := andThen

/-- Work that fails. -/
def fail (e : BusError) : Work σ α := fun leg => (.error e, leg)

/-- The result of a piece of work, also if it fails. -/
def attempt (x : Work σ α) : Work σ (Except BusError α) := fun leg =>
  match x leg with
  | (r, leg) => (.ok r, leg)

/-- The leg as it stands. -/
def leg : Work σ (Leg σ) := fun leg => (.ok leg, leg)

/-- A change of the leg. -/
def change (f : Leg σ → Leg σ) : Work σ Unit := fun leg => (.ok (), f leg)

/-- The exchange as it stands. -/
def exchange : Work σ Exchange := fun leg => (.ok leg.exchange, leg)

/-- Fail if there is a failure. -/
def check : Option BusError → Work σ Unit
  | none => done ()
  | some e => fail e

/-- A new identifier. -/
def newId : Work σ Uuid := fun leg =>
  match leg.supply.nextId with
  | (id, supply) => (.ok id, { leg with supply := supply })

/-- The time. -/
def now : Work σ Timestamp := fun leg =>
  match leg.supply.now with
  | (time, supply) => (.ok time, { leg with supply := supply })

/-- A question to the parties, recorded with its answer. -/
def ask (question : σ → α × σ) (call : α → Call) : Work σ α := fun leg =>
  match question leg.bus.parties with
  | (a, parties) =>
      (.ok a,
        { leg with
          bus := { leg.bus with parties := parties }
          trace := leg.trace ++ [⟨call a, leg.bus.store⟩] })

/-! ## What pieces of work do -/

@[simp] theorem pure_apply (a : α) (l : Leg σ) : (pure a : Work σ α) l = (.ok a, l) := rfl

@[simp] theorem bind_apply (x : Work σ α) (f : α → Work σ β) (l : Leg σ) :
    (x >>= f) l =
      match x l with
      | (.ok a, l) => f a l
      | (.error e, l) => (.error e, l) := rfl

@[simp] theorem fail_apply (e : BusError) (l : Leg σ) : (fail e : Work σ α) l = (.error e, l) := rfl

end Work

end ServiceBus
