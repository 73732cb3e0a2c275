import ServiceBus.Proofs.Leg.Effects

set_option autoImplicit false

/-! # Incoming responses, step by step

The acts of an incoming response, with fewer where its caller waits (`does_takeResponse_sync`),
and the course that it takes (`takeResponse_course`): its status, its message and the policy
select one. -/

namespace ServiceBus

/-- Whether a response says anything: it is marked as failed, or brings a message. -/
def Exchange.answered (e : Exchange) : Bool := e.isError || (e.inbound .response).isSome

namespace Work

variable {σ : Type} (env : Environment σ)

/-! ## The acts -/

/-- The acts of taking an answer that has been judged. -/
def answerActs : List Act :=
  [.draw, .call .notify, .close, .call .acknowledge, .find, .call .handleError,
    .call .handleMessage, .record]

/-- The acts of an incoming response. -/
def responseActs : List Act := answerActs ++ [.keep, .call .policy, .replace]

theorem does_takeFailure (failure : BusError) : Does answerActs (takeFailure env failure) := by
  unfold takeFailure
  refine ((does_notifyFailure env _).mono (by decide)).bind fun _ => ?_
  refine ((does_acknowledge env).mono (by decide)).bind fun _ => ?_
  refine ((does_deliverErrorQuietly env _).mono (by decide)).bind fun _ => ?_
  exact (does_recordFailure _).mono (by decide)

/-- The acts of the delivery of a response. -/
def deliveryActs : List Act :=
  [.draw, .call .notify, .close, .find, .call .handleError, .call .handleMessage, .record]

/-- What follows the acknowledgement of an answer that brings a message. -/
def tellAnswer (message : Message) : Work σ Unit := do
  match BusError.ofFault? message.body with
  | some remote => do
      deliverError env remote
      recordFailure remote
  | none => deliverMessage env message
  notify env .finished

theorem does_tellAnswer (message : Message) : Does deliveryActs (tellAnswer env message) := by
  have hend : Does deliveryActs (notify env .finished) := (does_notify env _).mono (by decide)
  unfold tellAnswer
  cases BusError.ofFault? message.body with
  | some remote =>
      refine ((does_deliverError env _).mono (by decide)).bind fun _ => ?_
      exact ((does_recordFailure _).mono (by decide)).bind fun _ => hend
  | none => exact ((does_deliverMessage env _).mono (by decide)).bind fun _ => hend

theorem does_takeAnswer (message : Message) : Does answerActs (takeAnswer env message) := by
  unfold takeAnswer
  refine ((does_notify env _).mono (by decide)).bind fun _ => ?_
  refine ((does_acknowledge env).mono (by decide)).bind fun _ => ?_
  exact (does_tellAnswer env message).mono (by decide)

theorem does_openAnswer {acts : List Act} {failed : BusError → Work σ Unit}
    {brought : Message → Work σ Unit} (hf : ∀ e, Does acts (failed e))
    (hb : ∀ m, Does acts (brought m)) : Does acts (openAnswer failed brought) := by
  unfold openAnswer
  refine Does.exchange.bind fun e => ?_
  split
  · exact Does.exchange.bind fun e => hf _
  · exact (does_inboundMessage.mono (by simp)).bind hb

theorem does_takeFault : Does answerActs (takeFault env) :=
  does_openAnswer (does_takeFailure env) (does_takeAnswer env)

/-- The acts of a failure that the participant learns of at most as a failure. -/
def failureActs : List Act :=
  [.draw, .call .notify, .close, .call .acknowledge, .find, .call .handleError, .record]

theorem does_failResponse (sync : Bool) (failure : BusError) :
    Does failureActs (failResponse env sync failure) := by
  unfold failResponse
  refine ((does_notifyFailure env _).mono (by decide)).bind fun _ => ?_
  have hack : Does failureActs (acknowledge env) := (does_acknowledge env).mono (by decide)
  cases sync with
  | true => exact hack.bind fun _ => .fail _
  | false =>
      refine ((does_deliverErrorQuietly env _).mono (by decide)).bind fun _ => ?_
      exact hack.bind fun _ => (does_recordFailure _).mono (by decide)

theorem does_deliverFailure (e : BusError) :
    Does (.record :: errorActs) (deliverFailure env e) := by
  unfold deliverFailure
  refine ((does_deliverError env e).mono (by decide)).attempt.bind fun delivered => ?_
  exact ((does_recordFailure e).mono (by decide)).bind fun _ => .pure delivered

theorem does_deliverResponse (remote : Option BusError) (message : Message) :
    Does deliveryActs (deliverResponse env remote message) := by
  unfold deliverResponse
  cases remote with
  | some e => exact (does_deliverFailure env e).mono (by decide)
  | none =>
      refine Does.exchange.bind fun e => ?_
      split
      · exact (does_deliverFailure env _).mono (by decide)
      · exact ((does_deliverMessage env message).mono (by decide)).attempt

/-- The acts of what follows the acknowledgement of a response that a caller waits for. -/
def tellCallerActs : List Act := .record :: noticeActs

/-- What follows the acknowledgement of a response that a caller waits for. -/
def tellCaller : Option BusError → Work σ Unit
  | some e => do
      notifyFailure env e
      recordFailure e
  | none => notify env .finished

theorem does_tellCaller (remote : Option BusError) :
    Does tellCallerActs (tellCaller env remote) := by
  cases remote with
  | some e =>
      refine ((does_notifyFailure env e).mono (by decide)).bind fun _ => ?_
      exact (does_recordFailure e).mono (by decide)
  | none => exact (does_notify env .finished).mono (by decide)

theorem does_concludeResponse (sync : Bool) (remote : Option BusError) (message : Message) :
    Does answerActs (concludeResponse env sync remote message) := by
  have hack : Does answerActs (acknowledge env) := (does_acknowledge env).mono (by decide)
  cases sync with
  | true => exact hack.bind fun _ => (does_tellCaller env remote).mono (by decide)
  | false =>
      refine ((does_deliverResponse env remote message).mono (by decide)).bind fun delivered => ?_
      refine hack.bind fun _ => ?_
      cases delivered with
      | error e => exact .fail e
      | ok _ => exact (does_notify env .finished).mono (by decide)

/-- The message of a response is judged, and fails or is concluded. -/
theorem does_takeMessage_of {acts : List Act} (hjudge : [.call .policy, .replace] ⊆ acts)
    {sync : Bool} {message : Message} (hf : ∀ e, Does acts (failResponse env sync e))
    (hc : ∀ remote, Does acts (concludeResponse env sync remote message)) :
    Does acts (takeMessage env sync message) := by
  unfold takeMessage
  cases BusError.ofFault? message.body with
  | some remote => exact hc (some remote)
  | none =>
      refine ((does_applyPolicy env).mono hjudge).attempt.bind fun judged => ?_
      cases judged with
      | error violation => exact hf violation
      | ok _ => exact hc none

theorem does_takeMessage (sync : Bool) (message : Message) :
    Does responseActs (takeMessage env sync message) :=
  does_takeMessage_of env (by decide) (fun e => (does_failResponse env sync e).mono (by decide))
    fun remote => (does_concludeResponse env sync remote message).mono (by decide)

theorem does_letGo (sync : Bool) : Does [.keep] (letGo sync : Work σ Unit) := by
  cases sync with
  | true => exact .pure ()
  | false => exact does_release

@[simp] theorem letGo_fst (sync : Bool) (l : Leg σ) : (letGo sync l).1 = .ok () := by
  cases sync <;> rfl

theorem does_takeResponse (sync : Bool) : Does responseActs (takeResponse env sync) := by
  refine ((does_letGo sync).mono (by decide)).bind fun _ => does_openAnswer (fun e => ?_) ?_
  · exact (does_failResponse env sync e).mono (by decide)
  · exact does_takeMessage env sync

theorem does_incomingResponse (variant : Variant) :
    Does responseActs (incomingResponse env variant) := by
  have hfault : Does responseActs (takeFault env) := (does_takeFault env).mono (by decide)
  cases variant with
  | oneWay => exact hfault
  | callback => exact hfault
  | requestResponse sync => exact does_takeResponse env sync

/-! ### When the caller waits -/

/-- The acts of a response whose caller waits for it: the participant is told nothing, and nothing
is done to the store. -/
def awaitedActs : List Act :=
  [.draw, .call .notify, .close, .call .acknowledge, .record, .call .policy, .replace]

theorem does_failResponse_sync (failure : BusError) :
    Does awaitedActs (failResponse env true failure) := by
  refine ((does_notifyFailure env failure).mono (by decide)).bind fun _ => ?_
  exact ((does_acknowledge env).mono (by decide)).bind fun _ => .fail failure

theorem does_concludeResponse_sync (remote : Option BusError) (message : Message) :
    Does awaitedActs (concludeResponse env true remote message) :=
  ((does_acknowledge env).mono (by decide)).bind fun _ =>
    (does_tellCaller env remote).mono (by decide)

theorem does_takeResponse_sync : Does awaitedActs (takeResponse env true) := by
  refine (Does.pure ()).bind fun _ => does_openAnswer (does_failResponse_sync env) fun message => ?_
  exact does_takeMessage_of env (by decide) (does_failResponse_sync env)
    (does_concludeResponse_sync env · message)

/-! ## The courses

What an answer is opened as depends on its status and its message; what becomes of the message
of a response, on the message and the policy. -/

section Courses

variable {l : Leg σ} (failed : BusError → Work σ Unit) (brought : Message → Work σ Unit)

theorem openAnswer_of_isError (h : l.exchange.isError = true) :
    openAnswer failed brought l = failed l.exchange.failureError l := by
  unfold openAnswer
  rw [bind_exchange, if_pos h]
  rfl

theorem openAnswer_of_none (h : l.exchange.isError = false)
    (hm : l.exchange.inbound l.scope = none) :
    openAnswer failed brought l = (.error (noMessage l.exchange l.scope), l) := by
  unfold openAnswer
  rw [bind_exchange, if_neg (by simp [h])]
  exact bind_inboundMessage_of_none hm brought

theorem openAnswer_of_some (h : l.exchange.isError = false) {message : Message}
    (hm : l.exchange.inbound l.scope = some message) :
    openAnswer failed brought l = brought message l := by
  unfold openAnswer
  rw [bind_exchange, if_neg (by simp [h])]
  exact bind_inboundMessage_of_some hm brought

variable (sync : Bool) {message : Message}

theorem takeMessage_of_fault {remote : BusError}
    (h : BusError.ofFault? message.body = some remote) :
    takeMessage env sync message = concludeResponse env sync (some remote) message := by
  rw [takeMessage, h]

theorem takeMessage_of_rejected (h : BusError.ofFault? message.body = none)
    {violation : PolicyViolation} (hv : (l.ruling env).violation = some violation) :
    takeMessage env sync message l =
      failResponse env sync (BusError.ofViolation violation) (applyPolicy env l).2 := by
  rw [takeMessage, h]
  show (attempt (applyPolicy env) >>= _) l = _
  rw [bind_attempt, applyPolicy_fst, hv]

theorem takeMessage_of_accepted (h : BusError.ofFault? message.body = none)
    (hv : (l.ruling env).violation = none) :
    takeMessage env sync message l =
      concludeResponse env sync none message (applyPolicy env l).2 := by
  rw [takeMessage, h]
  show (attempt (applyPolicy env) >>= _) l = _
  rw [bind_attempt, applyPolicy_fst, hv]

/-- A response that reports a failure is taken as the report, without asking the policy. -/
theorem takeResponse_of_report {sync : Bool} (he : l.exchange.isError = false)
    (hi : l.exchange.inbound l.scope = some message) {remote : BusError}
    (hf : BusError.ofFault? message.body = some remote) :
    takeResponse env sync l = concludeResponse env sync (some remote) message (letGo sync l).2 := by
  have hgo := does_letGo sync l
  have hge : (letGo sync l).2.exchange = l.exchange := hgo.exchange (by decide)
  have hgs : (letGo sync l).2.scope = l.scope := hgo.scope (by decide)
  rw [takeResponse, bind_of_ok (letGo_fst sync l), openAnswer_of_some _ _ (by rw [hge, he])
    (by rw [hge, hgs, hi]), takeMessage_of_fault env sync hf]

/-- The courses of a response from the leg `m`. -/
inductive ResponseCourse (m : Leg σ) (x : Except BusError Unit × Leg σ) : Prop where
  /-- The transport has marked the response as failed. -/
  | marked (he : m.exchange.isError = true)
      (hx : x = failResponse env sync m.exchange.failureError m)
  /-- There is no message in the response. -/
  | silent (he : m.exchange.isError = false) (hi : m.exchange.inbound m.scope = none)
      (hx : x = (.error (noMessage m.exchange m.scope), m))
  /-- The message reports a failure, and the policy is not asked. -/
  | reported (he : m.exchange.isError = false) (message : Message)
      (hi : m.exchange.inbound m.scope = some message) (remote : BusError)
      (hf : BusError.ofFault? message.body = some remote)
      (hx : x = concludeResponse env sync (some remote) message m)
  /-- The policy rejects the response. -/
  | rejected (he : m.exchange.isError = false) (message : Message)
      (hi : m.exchange.inbound m.scope = some message)
      (hf : BusError.ofFault? message.body = none) (violation : PolicyViolation)
      (hv : (m.ruling env).violation = some violation)
      (hx : x = failResponse env sync (BusError.ofViolation violation) (applyPolicy env m).2)
  /-- The policy accepts the response, which goes on with the message that came. -/
  | accepted (he : m.exchange.isError = false) (message : Message)
      (hi : m.exchange.inbound m.scope = some message)
      (hf : BusError.ofFault? message.body = none) (hv : (m.ruling env).violation = none)
      (hx : x = concludeResponse env sync none message (applyPolicy env m).2)

theorem takeResponse_course (l : Leg σ) :
    ResponseCourse env sync (letGo sync l).2 (takeResponse env sync l) := by
  have hx : takeResponse env sync l = openAnswer (failResponse env sync) (takeMessage env sync)
      (letGo sync l).2 := bind_of_ok (letGo_fst sync l) _
  generalize (letGo sync l).2 = m at hx
  cases he : m.exchange.isError with
  | true => exact .marked he (by rw [hx, openAnswer_of_isError _ _ he])
  | false =>
      cases hi : m.exchange.inbound m.scope with
      | none => exact .silent he hi (by rw [hx, openAnswer_of_none _ _ he hi])
      | some message =>
          rw [openAnswer_of_some _ _ he hi] at hx
          cases hf : BusError.ofFault? message.body with
          | some remote =>
              exact .reported he message hi remote hf (by rw [hx, takeMessage_of_fault env sync hf])
          | none =>
              cases hv : (m.ruling env).violation with
              | some violation =>
                  exact .rejected he message hi hf violation hv
                    (by rw [hx, takeMessage_of_rejected env sync hf hv])
              | none =>
                  exact .accepted he message hi hf hv
                    (by rw [hx, takeMessage_of_accepted env sync hf hv])

end Courses

end Work

end ServiceBus
