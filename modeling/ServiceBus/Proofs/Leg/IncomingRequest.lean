import ServiceBus.Proofs.Leg.Signals

set_option autoImplicit false

/-! # Incoming requests, step by step

All variants take a request through the same course. It arrives (`arrive`), the policy judges it,
and it is rejected (`rejectRequest`) or accepted (`acceptRequest`); only a request that the
transport has marked as failed is turned away before that. The variants differ in what each of
these is, and the course is the same for all of them (`incomingRequest_eq`).

The acts of an incoming request are those of the parts of its course. It does not succeed before
the transport knows that the leg is over (`settles_incomingRequest`): every course that does not
end with a failure has an acknowledgement on the way. -/

namespace ServiceBus.Work

variable {σ : Type} (env : Environment σ)

/-! ## The parts of the course -/

/-- A request arrives. One with a response is kept for it. -/
def arrive : Variant → Work σ Unit
  | .oneWay | .callback => notify env .netInPost
  | .requestResponse _ => do
      persist
      notify env .netInPost

/-- What is done with a request that the policy rejects. -/
def rejectRequest (violation : BusError) : Variant → Work σ Unit
  | .oneWay | .callback => turnAway env violation
  | .requestResponse _ => do
      notifyFailure env violation
      let told ← attempt (deliverError env violation)
      release
      refuse env (refusalCause violation told)
      fail violation

/-- What is done with a request that the policy accepts. -/
def acceptRequest : Variant → Work σ Unit
  | .oneWay => do
      let message ← inboundMessage
      acknowledge env
      deliverMessage env message
      notify env .finished
  | .callback => do
      acknowledge env
      deliverOrSendFault env
  | .requestResponse _ => do
      let message ← inboundMessage
      match ← attempt (deliverMessage env message) with
      | .error failure => do
          release
          fail failure
      | .ok () => do
          acknowledge env
          notify env .finished

/-- The course of a request, for all variants. -/
theorem incomingRequest_eq (variant : Variant) :
    incomingRequest env variant = (do
      if (← exchange).isError then turnAway env (← exchange).failureError
      else do
        arrive env variant
        match ← attempt (applyPolicy env) with
        | .error violation => rejectRequest env violation variant
        | .ok () => acceptRequest env variant) := by
  cases variant with
  | oneWay => rfl
  | callback => rfl
  | requestResponse sync =>
      -- an arrival is two pieces of work here
      simp only [arrive, bind_bind]
      rfl

/-! ## The acts -/

/-- The acts of turning a request away. -/
def turnAwayActs : List Act :=
  [.draw, .call .notify, .close, .find, .call .handleError, .call .acknowledge]

theorem does_turnAway (failure : BusError) : Does turnAwayActs (turnAway env failure) := by
  unfold turnAway
  refine ((does_notifyFailure env _).mono (by decide)).bind fun _ => ?_
  refine ((does_deliverErrorQuietly env _).mono (by decide)).bind fun _ => ?_
  exact ((does_acknowledge env).mono (by decide)).bind fun _ => .fail _

/-- The acts of sending a fault. -/
def faultActs : List Act := [.draw, .call .notify, .close, .call .sendSync]

theorem does_faultExchange (request : Exchange) (replyTo : EndpointReference) (operation : String)
    (cause : BusError) :
    Does [.draw] (faultExchange request replyTo operation cause : Work σ Exchange) := by
  unfold faultExchange
  refine Does.newId.bind fun messageId => Does.now.bind fun created => ?_
  exact Does.now.bind fun related => Does.newId.bind fun id => .pure _

theorem does_postFault (address : String) (fault : Exchange) :
    Does faultActs (postFault env address fault) := by
  unfold postFault
  refine ((does_roundTrip env fault).mono (by decide)).bind fun answer => ?_
  refine (Does.check _).bind fun _ => ?_
  split
  · exact .fail _
  · exact (does_notifyOf env _ _ _).mono (by decide)

theorem does_sendFault (cause : BusError) : Does faultActs (sendFault env cause) := by
  have hdrop : ∀ reason, Does faultActs (dropFault env reason) :=
    fun reason => (does_notifyOf env _ _ _).mono (by decide)
  unfold sendFault
  refine Does.exchange.bind fun request => ?_
  cases request.context.replyTo with
  | none => exact hdrop _
  | some replyTo =>
      dsimp only
      cases env.directory.faultOperation? replyTo.serviceId with
      | none => exact hdrop _
      | some operation =>
          exact ((does_faultExchange _ _ _ _).mono (by decide)).bind fun fault =>
            does_postFault env _ fault

/-- The acts of a delivery that may end with sending a fault. -/
def deliverOrSendFaultActs : List Act := messageActs ++ [.call .sendSync]

theorem does_deliverOrSendFault : Does deliverOrSendFaultActs (deliverOrSendFault env) := by
  unfold deliverOrSendFault
  refine (does_inboundMessage.mono (by decide)).bind fun message => ?_
  refine ((does_deliverMessage env message).mono (by decide)).attempt.bind fun taken => ?_
  cases taken with
  | ok _ => exact (does_notify env _).mono (by decide)
  | error failure =>
      refine ((does_sendFault env failure).mono (by decide)).attempt.bind fun _ => ?_
      exact ((does_notifyFailure env failure).mono (by decide)).bind fun _ => .fail failure

/-- The acts of an arrival. -/
def arrivalActs : List Act := .keep :: noticeActs

theorem does_arrive (variant : Variant) : Does arrivalActs (arrive env variant) := by
  have hnotice : Does arrivalActs (notify env .netInPost) := (does_notify env _).mono (by decide)
  cases variant with
  | oneWay => exact hnotice
  | callback => exact hnotice
  | requestResponse sync => exact (does_persist.mono (by decide)).bind fun _ => hnotice

/-- The acts of what is done with a request once the policy has judged it. The policy is not
asked again, and the exchange stays as it is. -/
def judgedActs : List Act :=
  [.draw, .call .notify, .close, .find, .call .handleError, .call .handleMessage,
    .call .acknowledge, .call .refuse, .call .sendSync, .keep]

theorem does_rejectRequest (violation : BusError) (variant : Variant) :
    Does judgedActs (rejectRequest env violation variant) := by
  have hturn : Does judgedActs (turnAway env violation) := (does_turnAway env _).mono (by decide)
  cases variant with
  | oneWay => exact hturn
  | callback => exact hturn
  | requestResponse sync =>
      refine ((does_notifyFailure env violation).mono (by decide)).bind fun _ => ?_
      refine ((does_deliverError env violation).mono (by decide)).attempt.bind fun told => ?_
      refine (does_release.mono (by decide)).bind fun _ => ?_
      exact ((does_refuse env _).mono (by decide)).bind fun _ => .fail violation

theorem does_acceptRequest (variant : Variant) : Does judgedActs (acceptRequest env variant) := by
  have hack : Does judgedActs (acknowledge env) := (does_acknowledge env).mono (by decide)
  have hend : Does judgedActs (notify env .finished) := (does_notify env _).mono (by decide)
  have hdeliver : ∀ message, Does judgedActs (deliverMessage env message) :=
    fun message => (does_deliverMessage env message).mono (by decide)
  cases variant with
  | oneWay =>
      refine (does_inboundMessage.mono (by decide)).bind fun message => ?_
      exact hack.bind fun _ => (hdeliver message).bind fun _ => hend
  | callback => exact hack.bind fun _ => (does_deliverOrSendFault env).mono (by decide)
  | requestResponse sync =>
      refine (does_inboundMessage.mono (by decide)).bind fun message => ?_
      refine (hdeliver message).attempt.bind fun taken => ?_
      cases taken with
      | error failure => exact (does_release.mono (by decide)).bind fun _ => .fail failure
      | ok _ => exact hack.bind fun _ => hend

/-- The acts of an incoming request. -/
def requestActs : List Act :=
  [.draw, .call .notify, .close, .call .acknowledge, .call .refuse, .find, .call .handleError,
    .call .handleMessage, .call .policy, .replace, .call .sendSync, .keep]

theorem does_incomingRequest (variant : Variant) :
    Does requestActs (incomingRequest env variant) := by
  rw [incomingRequest_eq]
  refine Does.exchange.bind fun e => ?_
  split
  · exact Does.exchange.bind fun e => (does_turnAway env _).mono (by decide)
  · refine ((does_arrive env variant).mono (by decide)).bind fun _ => ?_
    refine ((does_applyPolicy env).mono (by decide)).attempt.bind fun judged => ?_
    cases judged with
    | error violation => exact (does_rejectRequest env violation variant).mono (by decide)
    | ok _ => exact (does_acceptRequest env variant).mono (by decide)

/-! ## No success without a signal -/

theorem settles_turnAway (failure : BusError) : Settles (turnAway env failure) := by
  unfold turnAway
  exact .bind_right fun _ => .bind_right fun _ => .bind_right fun _ => .fail _

theorem settles_rejectRequest (violation : BusError) (variant : Variant) :
    Settles (rejectRequest env violation variant) := by
  cases variant with
  | oneWay => exact settles_turnAway env violation
  | callback => exact settles_turnAway env violation
  | requestResponse sync =>
      refine .bind_right fun _ => .bind_right fun told => .bind_right fun _ => ?_
      exact .bind_right fun _ => .fail violation

theorem settles_acceptRequest (variant : Variant) : Settles (acceptRequest env variant) := by
  cases variant with
  | oneWay =>
      -- the acknowledgement comes before the delivery, so that what follows keeps its mark
      refine .bind_right fun message => ?_
      refine (Settles.acknowledge env).bind_left judgedActs fun _ => ?_
      refine ((does_deliverMessage env message).mono (by decide)).bind fun _ => ?_
      exact (does_notify env _).mono (by decide)
  | callback => exact (Settles.acknowledge env).bind_left _ fun _ => does_deliverOrSendFault env
  | requestResponse sync =>
      refine .bind_right fun message => .bind_right fun taken => ?_
      cases taken with
      | error failure => exact .bind_right fun _ => .fail failure
      | ok _ => exact (Settles.acknowledge env).bind_left noticeActs fun _ => does_notify env _

theorem settles_incomingRequest (variant : Variant) : Settles (incomingRequest env variant) := by
  rw [incomingRequest_eq]
  refine .bind_right fun e => ?_
  split
  · exact .bind_right fun e => settles_turnAway env _
  · refine .bind_right fun _ => .bind_right fun judged => ?_
    cases judged with
    | error violation => exact settles_rejectRequest env violation variant
    | ok _ => exact settles_acceptRequest env variant

end ServiceBus.Work
