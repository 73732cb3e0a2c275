import ServiceBus.Proofs.Leg.Outcome
import ServiceBus.Proofs.Leg.Outgoing
import ServiceBus.Proofs.Leg.Reception

set_option autoImplicit false

/-! # What a policy that rewrites an exchange changes

The policy may put other messages into the slots of an exchange that it accepts. A caller that
waits reads the slots when the leg is over, and gets what the policy has left there, of a
response (`accepted_of_reply_takeResponse`) as of a request (`accepted_of_reply_incomingRequest`).
A participant that nobody waits beside gets the message that a response has brought, which was
taken out before the policy was asked (`message_of_takeResponse`). -/

namespace ServiceBus

theorem Exchange.slots_of_payload {e : Exchange} {message : Message} (h : e.payload = .ok message) :
    e.fault = none ∧ e.output = some message := by
  unfold payload at h
  cases hf : e.fault with
  | some fault => simp [hf] at h
  | none =>
      cases ho : e.output with
      | none => simp [hf, ho] at h
      | some output =>
          simp only [hf, ho, Except.ok.injEq] at h
          exact ⟨rfl, by rw [h]⟩

namespace Work

variable {σ : Type} (env : Environment σ) {l : Leg σ}

/-! ## A participant that is called back -/

section Told

variable {handler : HandlerName} {incoming : Incoming} {failure : Option HandlerError}

/-- Without the delivery of a message, no message is told. -/
theorem no_message_of_steps {acts : List Act} {l' : Leg σ} (hs : Leg.Steps acts l l')
    (hacts : .call .handleMessage ∉ acts) (hl : callsOf callbackKinds l.trace = []) :
    .handleMessage handler incoming failure ∉ callsOf callbackKinds l'.trace := by
  intro h
  have hmem := mem_callsOf_of_kind [.handleMessage] h (by simp [Call.kind])
  rw [hs.callsOf (by simpa using hacts)] at hmem
  have hbefore := mem_callsOf_of_kind callbackKinds hmem
    (by simp [Call.kind, callbackKinds])
  rw [hl] at hbefore
  cases hbefore

/-- A delivery tells no other message than the one it delivers. -/
theorem message_of_deliverMessage {message : Message}
    (hl : callsOf callbackKinds l.trace = [])
    (h : .handleMessage handler incoming failure ∈
      callsOf callbackKinds (deliverMessage env message l).2.trace) :
    incoming.message = message := by
  cases hh : l.participant? with
  | none =>
      rw [deliverMessage, bind_of_error (requireHandler_of_none hh)] at h
      exact absurd h (no_message_of_steps (does_requireHandler l) (by decide) hl)
  | some found =>
      rcases deliverMessage_cases env hh message with ⟨answer, -, hcalls⟩ | ⟨header, -, -, hcalls⟩
      · rw [hcalls, hl, List.nil_append, List.mem_singleton] at h
        cases h
        rfl
      · rw [hcalls, hl] at h
        cases h

/-- Taking a response that reports no failure tells the message only if there is no fault beside
it. -/
theorem message_of_concludeResponse {message : Message} (hl : callsOf callbackKinds l.trace = [])
    (h : .handleMessage handler incoming failure ∈
      callsOf callbackKinds (concludeResponse env false none message l).2.trace) :
    l.exchange.fault = none ∧ incoming.message = message := by
  rw [callbacks_concludeResponse] at h
  have hx : deliverResponse env none message l =
      (if l.exchange.fault.isSome = true then deliverFailure env (BusError.ofRemote message.body)
        else attempt (deliverMessage env message) : Work σ _) l := rfl
  rw [hx] at h
  cases hf : l.exchange.fault with
  | some fault =>
      rw [hf] at h
      exact absurd h (no_message_of_steps (does_deliverFailure env _ l) (by decide) hl)
  | none =>
      rw [hf] at h
      exact ⟨rfl, message_of_deliverMessage env hl h⟩

/-- A message that a participant is called back with is the one that the response has brought.
The policy has accepted the response, without a fault, but what else it has made of it does not
matter. -/
theorem message_of_takeResponse (hl : callsOf callbackKinds l.trace = [])
    (h : .handleMessage handler incoming failure ∈
      callsOf callbackKinds (takeResponse env false l).2.trace) :
    ∃ e', callsOf [.policy] (takeResponse env false l).2.trace =
        callsOf [.policy] l.trace ++ [.policy l.exchange l.role l.scope ⟨e', none⟩] ∧
      e'.fault = none ∧ l.exchange.inbound l.scope = some incoming.message := by
  have hgo := does_letGo false l
  have hcourse := takeResponse_course env false l
  have hm : callsOf callbackKinds (letGo false l).2.trace = [] := by
    rw [hgo.callsOf (by decide), hl]
  have hpolicies : callsOf [.policy] (letGo false l).2.trace = callsOf [.policy] l.trace :=
    hgo.callsOf (by decide)
  rw [← hgo.exchange (by decide), ← hgo.role, ← hgo.scope (by decide), ← hpolicies]
  generalize (letGo false l).2 = m at hcourse hm
  have hjudged : callsOf callbackKinds (applyPolicy env m).2.trace = [] := by
    rw [(does_applyPolicy env m).callsOf (by decide), hm]
  -- of the courses of a response, only one delivers a message
  cases hcourse with
  | marked he hx =>
      rw [hx] at h
      exact absurd h (no_message_of_steps (does_failResponse env _ _ m) (by decide) hm)
  | silent he hi hx =>
      rw [hx, hm] at h
      cases h
  | reported he message hi remote hf hx =>
      rw [hx, callbacks_concludeResponse] at h
      exact absurd h (no_message_of_steps (does_deliverFailure env remote m) (by decide) hm)
  | rejected he message hi hf violation hv hx =>
      rw [hx] at h
      exact absurd h (no_message_of_steps (does_failResponse env _ _ _) (by decide) hjudged)
  | accepted he message hi hf hv hx =>
      rw [hx] at h
      obtain ⟨hfault, hmessage⟩ := message_of_concludeResponse env hjudged h
      have hruling : m.ruling env = ⟨(m.ruling env).exchange, none⟩ := by rw [← hv]
      refine ⟨(m.ruling env).exchange, ?_, ?_, by rw [hi, hmessage]⟩
      · rw [hx, (does_concludeResponse env false none message _).callsOf (by decide),
          policies_applyPolicy, ← hruling]
      · rw [← hfault, applyPolicy_snd]

end Told

/-! ## A caller that waits -/

section Reply

variable {message : Message}

theorem reply_eq_ok {x : Except BusError Unit × Leg σ} (h : reply x = .ok message) :
    x.1 = .ok () ∧ x.2.failure = none ∧ x.2.exchange.payload = .ok message := by
  unfold reply at h
  cases hr : x.1 with
  | error e => simp [hr] at h
  | ok _ =>
      cases hf : x.2.failure with
      | some e => simp [hr, hf] at h
      | none =>
          simp only [hr, hf] at h
          exact ⟨rfl, rfl, h⟩

/-- A response that reports a failure is a failure for whoever reads the end of the leg. -/
theorem reply_reported (sync : Bool) (remote : BusError) (message : Message) :
    ∃ e, reply (concludeResponse env sync (some remote) message l) = .error e := by
  cases sync with
  | true => exact ⟨remote, reply_concludeResponse_some env remote message⟩
  | false =>
      -- the failure is recorded with the delivery, and stays so
      have hrecorded : (deliverResponse env (some remote) message l).2.failure = some remote := rfl
      cases hd : (deliverError env remote l).1 with
      | error e =>
          have hdelivered : (deliverResponse env (some remote) message l).1 = .ok (.error e) :=
            congrArg Except.ok hd
          have hx : concludeResponse env false (some remote) message l =
              (acknowledge env >>= fun _ => Work.fail e)
                (deliverResponse env (some remote) message l).2 :=
            bind_of_ok hdelivered _
          rw [hx, bind_of_ok (acknowledge_fst env _)]
          exact ⟨e, rfl⟩
      | ok _ =>
          have hdelivered : (deliverResponse env (some remote) message l).1 = .ok (.ok ()) :=
            congrArg Except.ok hd
          have hx : concludeResponse env false (some remote) message l =
              (acknowledge env >>= fun _ => notify env .finished)
                (deliverResponse env (some remote) message l).2 :=
            bind_of_ok hdelivered _
          rw [hx, bind_of_ok (acknowledge_fst env _)]
          refine ⟨remote, ?_⟩
          rw [reply, notify_fst, (does_notify env _ _).failure (by decide),
            (does_acknowledge env _).failure (by decide), hrecorded]

/-- Of the courses of a response, only one does not end in a failure. -/
theorem accepted_of_reply_ok (sync : Bool) (h : reply (takeResponse env sync l) = .ok message) :
    ((letGo sync l).2.ruling env).violation = none ∧
      ∃ taken, takeResponse env sync l =
        concludeResponse env sync none taken (applyPolicy env (letGo sync l).2).2 := by
  have hcourse := takeResponse_course env sync l
  generalize (letGo sync l).2 = m at hcourse ⊢
  cases hcourse with
  | marked he hx =>
      rw [hx, reply_failResponse] at h
      cases h
  | silent he hi hx =>
      rw [hx] at h
      cases h
  | reported he message hi remote hf hx =>
      obtain ⟨e, herror⟩ := reply_reported env (l := m) sync remote message
      rw [hx, herror] at h
      cases h
  | rejected he message hi hf violation hv hx =>
      rw [hx, reply_failResponse] at h
      cases h
  | accepted he taken hi hf hv hx => exact ⟨hv, taken, hx⟩

/-- Who reads a message off the end of a response gets it as the policy has left it in the
exchange that it has accepted. -/
theorem accepted_of_reply_takeResponse (sync : Bool)
    (h : reply (takeResponse env sync l) = .ok message) :
    ∃ e', callsOf [.policy] (takeResponse env sync l).2.trace =
        callsOf [.policy] l.trace ++ [.policy l.exchange l.role l.scope ⟨e', none⟩] ∧
      e'.payload = .ok message := by
  have hgo := does_letGo sync l
  obtain ⟨hv, taken, hx⟩ := accepted_of_reply_ok env sync h
  have hpolicies : callsOf [.policy] (letGo sync l).2.trace = callsOf [.policy] l.trace :=
    hgo.callsOf (by decide)
  rw [← hgo.exchange (by decide), ← hgo.role, ← hgo.scope (by decide), ← hpolicies]
  generalize (letGo sync l).2 = m at hv hx
  have hconclude := does_concludeResponse env sync none taken (applyPolicy env m).2
  have hruling : m.ruling env = ⟨(m.ruling env).exchange, none⟩ := by rw [← hv]
  obtain ⟨-, -, hpayload⟩ := reply_eq_ok h
  rw [hx, hconclude.exchange (by decide), applyPolicy_snd] at hpayload
  refine ⟨(m.ruling env).exchange, ?_, hpayload⟩
  rw [hx, hconclude.callsOf (by decide), policies_applyPolicy, ← hruling]

/-- A request that is turned away fails. -/
theorem turnAway_fst (failure : BusError) : (turnAway env failure l).1 = .error failure := by
  show ((notifyFailure env failure >>= fun _ => deliverErrorQuietly env failure >>= fun _ =>
    acknowledge env >>= fun _ => Work.fail failure : Work σ Unit) l).1 = _
  rw [bind_of_ok (notifyFailure_fst env l failure),
    bind_of_ok (deliverErrorQuietly_fst env _ failure), bind_of_ok (acknowledge_fst env _)]
  rfl

/-- A request that the policy rejects fails. -/
theorem rejectRequest_fst (violation : BusError) (variant : Variant) :
    (rejectRequest env violation variant l).1 = .error violation := by
  cases variant with
  | oneWay => exact turnAway_fst env violation
  | callback => exact turnAway_fst env violation
  | requestResponse sync =>
      rw [rejectRequest, bind_of_ok (notifyFailure_fst env l violation), bind_attempt,
        bind_of_ok (release_fst _), bind_of_ok (refuse_fst env _ _)]
      rfl

/-- Who reads a message off the end of a request gets it as the policy has left it in the
exchange that it has accepted. -/
theorem accepted_of_reply_incomingRequest (variant : Variant)
    (h : reply (incomingRequest env variant l) = .ok message) :
    ∃ e', callsOf [.policy] (incomingRequest env variant l).2.trace =
        callsOf [.policy] l.trace ++ [.policy l.exchange l.role l.scope ⟨e', none⟩] ∧
      e'.payload = .ok message := by
  obtain ⟨hresult, -, hpayload⟩ := reply_eq_ok h
  cases he : l.exchange.isError with
  | true =>
      rw [incomingRequest_of_isError env variant he, turnAway_fst] at hresult
      cases hresult
  | false =>
      have hsteps := steps_incomingRequest env variant he
      rw [hsteps.exchange (by decide), exchange_judged] at hpayload
      refine ⟨_, ?_, hpayload⟩
      rw [policies_of_active env variant he]
      cases hv : (l.rulingOnArrival env variant).violation with
      | some violation =>
          rw [incomingRequest_of_active env variant he, hv] at hresult
          rw [rejectRequest_fst] at hresult
          cases hresult
      | none => rw [← hv]

end Reply

end Work

end ServiceBus
