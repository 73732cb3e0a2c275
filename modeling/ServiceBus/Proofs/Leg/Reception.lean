import ServiceBus.Proofs.Leg.IncomingRequest

set_option autoImplicit false

/-! # A leg on the course of a request

A request that is marked as failed is turned away (`incomingRequest_of_isError`). Any other one goes
the way that the policy's ruling tells (`incomingRequest_of_active`).

From the course follows what the policy is asked, and what the participant is told: of a
rejection the violation, and of an accepted request the message, once everything
before the delivery has been done (`Leg.atDelivery`). -/

namespace ServiceBus

variable {σ : Type} (env : Environment σ)

namespace Work

/-- What is done with a message of an accepted request before it is delivered. -/
def preface : Variant → Work σ Unit
  | .oneWay | .callback => acknowledge env
  | .requestResponse _ => pure ()

theorem does_preface (variant : Variant) : Does [.call .acknowledge] (preface env variant) := by
  cases variant with
  | oneWay => exact does_acknowledge env
  | callback => exact does_acknowledge env
  | requestResponse sync => exact .pure ()

end Work

/-! ## The leg on its course -/

/-- What the policy makes of a request when it has arrived. -/
def Leg.rulingOnArrival (variant : Variant) (l : Leg σ) : Ruling :=
  (Work.arrive env variant l).2.ruling env

/-- The leg of a request once the policy has judged it. -/
def Leg.judged (variant : Variant) (l : Leg σ) : Leg σ :=
  (Work.applyPolicy env (Work.arrive env variant l).2).2

/-- The leg of a request that the policy has accepted, when its message is delivered. -/
def Leg.atDelivery (variant : Variant) (l : Leg σ) : Leg σ :=
  (Work.preface env variant (l.judged env variant)).2

namespace Work

variable {l : Leg σ} (variant : Variant)

/-- The acts up to the policy's ruling on a request. -/
def rulingActs : List Act := arrivalActs ++ [.call .policy, .replace]

/-- The acts between the opening of a request and its delivery. -/
def admissionActs : List Act := rulingActs ++ [.call .acknowledge]

theorem steps_judged : Leg.Steps rulingActs l (l.judged env variant) :=
  ((does_arrive env variant l).mono (by decide)).trans ((does_applyPolicy env _).mono (by decide))

theorem steps_atDelivery : Leg.Steps admissionActs l (l.atDelivery env variant) :=
  ((steps_judged env variant).mono (by decide)).trans
    ((does_preface env variant _).mono (by decide))

theorem exchange_judged :
    (l.judged env variant).exchange = (l.rulingOnArrival env variant).exchange := by
  rw [Leg.judged, applyPolicy_snd]
  rfl

theorem exchange_atDelivery :
    (l.atDelivery env variant).exchange = (l.rulingOnArrival env variant).exchange := by
  rw [Leg.atDelivery, (does_preface env variant _).exchange (by decide), exchange_judged]

theorem rulingOnArrival_eq :
    l.rulingOnArrival env variant =
      (env.parties.enforce l.exchange l.role l.exchange.context.agreedPolicy l.scope
        (arrive env variant l).2.bus.parties).1 := by
  have harrive := does_arrive env variant l
  rw [Leg.rulingOnArrival, Leg.ruling, harrive.exchange (by decide), harrive.role,
    harrive.scope (by decide)]

theorem policies_judged :
    callsOf [.policy] (l.judged env variant).trace = callsOf [.policy] l.trace ++
      [.policy l.exchange l.role l.scope (l.rulingOnArrival env variant)] := by
  have harrive := does_arrive env variant l
  rw [Leg.judged, policies_applyPolicy, harrive.callsOf (by decide), harrive.exchange (by decide),
    harrive.role, harrive.scope (by decide)]
  rfl

/-! ## The course -/

theorem incomingRequest_of_isError (h : l.exchange.isError = true) :
    incomingRequest env variant l = turnAway env l.exchange.failureError l := by
  rw [incomingRequest_eq, bind_exchange, if_pos h]
  rfl

theorem arrive_fst : (arrive env variant l).1 = .ok () := by
  cases variant with
  | oneWay => exact notify_fst env _ _
  | callback => exact notify_fst env _ _
  | requestResponse sync =>
      rw [arrive, bind_of_ok (persist_fst l)]
      exact notify_fst env _ _

/-- A request that is not marked as failed goes the way that the policy's ruling tells. -/
theorem incomingRequest_of_active (h : l.exchange.isError = false) :
    incomingRequest env variant l =
      match (l.rulingOnArrival env variant).violation with
      | some violation =>
          rejectRequest env (BusError.ofViolation violation) variant (l.judged env variant)
      | none => acceptRequest env variant (l.judged env variant) := by
  have hne : ¬ l.exchange.isError = true := by simp [h]
  rw [incomingRequest_eq, bind_exchange, if_neg hne, bind_of_ok (arrive_fst env variant),
    bind_attempt, applyPolicy_fst]
  simp only [Leg.rulingOnArrival, Leg.judged]
  cases ((arrive env variant l).2.ruling env).violation <;> rfl

/-- Once the policy has judged a request, it is not asked again, and the exchange stays as it has
left it. -/
theorem steps_incomingRequest (h : l.exchange.isError = false) :
    Leg.Steps judgedActs (l.judged env variant) (incomingRequest env variant l).2 := by
  rw [incomingRequest_of_active env variant h]
  cases (l.rulingOnArrival env variant).violation with
  | some violation => exact does_rejectRequest env _ variant _
  | none => exact does_acceptRequest env variant _

/-! ## What the policy is asked -/

/-- About a request that is marked as failed the policy is not asked. -/
theorem policies_of_isError (h : l.exchange.isError = true) :
    callsOf [.policy] (incomingRequest env variant l).2.trace = callsOf [.policy] l.trace := by
  rw [incomingRequest_of_isError env variant h]
  exact (does_turnAway env _ _).callsOf (by decide)

/-- About any other request the policy is asked once. -/
theorem policies_of_active (h : l.exchange.isError = false) :
    callsOf [.policy] (incomingRequest env variant l).2.trace = callsOf [.policy] l.trace ++
      [.policy l.exchange l.role l.scope (l.rulingOnArrival env variant)] := by
  rw [(steps_incomingRequest env variant h).callsOf (by decide), policies_judged]

/-! ## What the participant is told -/

section Told

variable {handler : HandlerName}

theorem callbacks_turnAway (h : l.participant? = some handler) (e : BusError) :
    ∃ failure, callsOf callbackKinds (turnAway env e l).2.trace =
      callsOf callbackKinds l.trace ++ [.handleError handler e l.exchange.context failure] :=
  callbacks_of_failure env h e (callsOf_deliverErrorQuietly env · e) [.call .acknowledge]
    (fun _ => (does_acknowledge env).bind fun _ => .fail e) (by decide)

theorem callbacks_rejectRequest (h : l.participant? = some handler) (violation : BusError) :
    ∃ failure, callsOf callbackKinds (rejectRequest env violation variant l).2.trace =
      callsOf callbackKinds l.trace ++
        [.handleError handler violation l.exchange.context failure] := by
  cases variant with
  | oneWay => exact callbacks_turnAway env h violation
  | callback => exact callbacks_turnAway env h violation
  | requestResponse sync =>
      refine callbacks_of_failure env h violation (x := attempt (deliverError env violation))
        (fun _ => rfl) [.keep, .call .refuse] (fun told => ?_) (by decide)
      refine (does_release.mono (by decide)).bind fun _ => ?_
      exact ((does_refuse env _).mono (by decide)).bind fun _ => .fail violation

/-- Whether a fault is sent makes no difference to what the delivery comes to, or to what the
participant is told. -/
theorem deliverOrSendFault_eq {l : Leg σ} {message : Message}
    (hi : l.exchange.inbound l.scope = some message) :
    (deliverOrSendFault env l).1 = (deliverMessage env message l).1 ∧
      callsOf callbackKinds (deliverOrSendFault env l).2.trace =
        callsOf callbackKinds (deliverMessage env message l).2.trace := by
  rw [deliverOrSendFault, bind_inboundMessage_of_some hi, bind_attempt]
  cases (deliverMessage env message l).1 with
  | ok _ => exact ⟨rfl, (does_notify env .finished _).callsOf (by decide)⟩
  | error failure =>
      have hfault := does_sendFault env failure (deliverMessage env message l).2
      have hnotice := does_notifyFailure env failure
        (sendFault env failure (deliverMessage env message l).2).2
      refine ⟨rfl, ?_⟩
      exact (hnotice.callsOf (by decide)).trans (hfault.callsOf (by decide))

/-- An accepted request without a message is not delivered. -/
theorem callbacks_acceptRequest_of_none (hi : l.exchange.inbound l.scope = none) :
    callsOf callbackKinds (acceptRequest env variant l).2.trace =
      callsOf callbackKinds l.trace := by
  have hack := does_acknowledge env l
  cases variant with
  | oneWay => rw [acceptRequest, bind_inboundMessage_of_none hi]
  | callback =>
      have hi' : (acknowledge env l).2.exchange.inbound (acknowledge env l).2.scope = none := by
        rw [hack.exchange (by decide), hack.scope (by decide), hi]
      rw [acceptRequest, bind_of_ok (acknowledge_fst env l), deliverOrSendFault,
        bind_inboundMessage_of_none hi']
      exact hack.callsOf (by decide)
  | requestResponse sync => rw [acceptRequest, bind_inboundMessage_of_none hi]

/-- An accepted request comes to what the delivery of its message comes to, and the participant
is told nothing else. -/
theorem acceptRequest_of_some {message : Message}
    (hi : l.exchange.inbound l.scope = some message) :
    (acceptRequest env variant l).1 = (deliverMessage env message (preface env variant l).2).1 ∧
      callsOf callbackKinds (acceptRequest env variant l).2.trace =
        callsOf callbackKinds (deliverMessage env message (preface env variant l).2).2.trace := by
  have hack : ∀ m : Leg σ, callsOf callbackKinds (acknowledge env m).2.trace =
      callsOf callbackKinds m.trace := fun m => (does_acknowledge env m).callsOf (by decide)
  have hend : ∀ m : Leg σ, callsOf callbackKinds (notify env .finished m).2.trace =
      callsOf callbackKinds m.trace := fun m => (does_notify env _ m).callsOf (by decide)
  cases variant with
  | oneWay =>
      rw [acceptRequest, bind_inboundMessage_of_some hi, bind_of_ok (acknowledge_fst env l)]
      show _ = (deliverMessage env message (acknowledge env l).2).1 ∧ _
      refine ⟨?_, bind_frame (fun m => callsOf callbackKinds m.trace) (fun _ => hend) _⟩
      cases hd : (deliverMessage env message (acknowledge env l).2).1 with
      | ok _ => rw [bind_of_ok hd]; rfl
      | error failure => rw [bind_of_error hd]
  | callback =>
      have hsame := does_acknowledge env l
      rw [acceptRequest, bind_of_ok (acknowledge_fst env l)]
      refine deliverOrSendFault_eq env ?_
      rw [hsame.exchange (by decide), hsame.scope (by decide), hi]
  | requestResponse sync =>
      have hx : ∀ m : Leg σ, (acknowledge env >>= fun _ => notify env .finished) m =
          notify env .finished (acknowledge env m).2 :=
        fun m => bind_of_ok (acknowledge_fst env m) _
      rw [acceptRequest, bind_inboundMessage_of_some hi, bind_attempt]
      show _ = (deliverMessage env message l).1 ∧
        _ = callsOf callbackKinds (deliverMessage env message l).2.trace
      cases (deliverMessage env message l).1 with
      | error failure => exact ⟨rfl, (does_release _).callsOf (by decide)⟩
      | ok _ =>
          show ((acknowledge env >>= fun _ => notify env .finished) _).1 = _ ∧ callsOf callbackKinds
            ((acknowledge env >>= fun _ => notify env .finished) _).2.trace = _
          rw [hx]
          exact ⟨rfl, (hend _).trans (hack _)⟩

/-! ### In terms of the ruling -/

variable {variant}

/-- A participant that is known stays the same, whatever becomes of the exchange. -/
theorem participant?_of_handler {acts : List Act} {m : Leg σ} (hm : Leg.Steps acts l m)
    (hacts : .find ∉ acts) (h : l.handler = some handler) : m.participant? = some handler := by
  rw [Leg.participant?, hm.handler hacts, h]

variable (he : l.exchange.isError = false)

include he

/-- The participant is told that the policy has rejected the request. -/
theorem callbacks_of_rejected {violation : PolicyViolation}
    (hv : (l.rulingOnArrival env variant).violation = some violation)
    (hh : l.handler = some handler) :
    ∃ failure, callsOf callbackKinds (incomingRequest env variant l).2.trace =
      callsOf callbackKinds l.trace ++ [.handleError handler (BusError.ofViolation violation)
        (l.judged env variant).exchange.context failure] := by
  have hm := steps_judged env variant (l := l)
  have htold := callbacks_rejectRequest env variant (participant?_of_handler hm (by decide) hh)
    (BusError.ofViolation violation)
  rw [hm.callsOf (by decide)] at htold
  rw [incomingRequest_of_active env variant he, hv]
  exact htold

/-- The participant is told nothing of an accepted request without a message. -/
theorem callbacks_of_accepted_none (hv : (l.rulingOnArrival env variant).violation = none)
    (hi : (l.rulingOnArrival env variant).exchange.inbound l.scope = none) :
    callsOf callbackKinds (incomingRequest env variant l).2.trace =
      callsOf callbackKinds l.trace := by
  have hm := steps_judged env variant (l := l)
  rw [incomingRequest_of_active env variant he, hv]
  refine (callbacks_acceptRequest_of_none env variant ?_).trans (hm.callsOf (by decide))
  rw [hm.scope (by decide), exchange_judged, hi]

/-- An accepted request comes to the delivery of its message. -/
theorem incomingRequest_of_accepted_some (hv : (l.rulingOnArrival env variant).violation = none)
    {message : Message}
    (hi : (l.rulingOnArrival env variant).exchange.inbound l.scope = some message) :
    (incomingRequest env variant l).1 =
        (deliverMessage env message (l.atDelivery env variant)).1 ∧
      callsOf callbackKinds (incomingRequest env variant l).2.trace =
        callsOf callbackKinds (deliverMessage env message (l.atDelivery env variant)).2.trace := by
  have hm := steps_judged env variant (l := l)
  rw [incomingRequest_of_active env variant he, hv]
  refine acceptRequest_of_some env variant ?_
  rw [hm.scope (by decide), exchange_judged, hi]

end Told

end Work

end ServiceBus
