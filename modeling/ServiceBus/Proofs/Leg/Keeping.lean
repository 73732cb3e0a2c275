import ServiceBus.Proofs.Leg.Moves
import ServiceBus.Proofs.Leg.Rewriting
import ServiceBus.Proofs.Leg.Sending

set_option autoImplicit false

/-! # What a leg keeps for a later one

Only legs of a request whose response comes later do something to the store, under the
identifier of the message that the request is about. The sender keeps the request while the
transport takes it, and lets it go if the transport does not (`sendRequest_course`). The receiver
keeps it unless its participant fails to take it or the policy rejects it
(`store_incomingRequest`). Either side lets it go when the response comes or leaves
(`store_takeResponse`, `store_outgoingResponse`).

Where the policy comes in between, the identifier is the one that it leaves in the exchange. -/

namespace ServiceBus.Work

variable {σ : Type} (env : Environment σ) {l : Leg σ}

theorem store_release (l : Leg σ) :
    (release l).2.bus.store = l.bus.store.erase l.exchange.messageId := rfl

/-! ## A sender's request -/

/-- The courses of a sender's request whose response comes later, and what is kept after each. -/
inductive SendCourse (l : Leg σ) (x : Except BusError Unit × Leg σ) : Prop where
  /-- The policy rejects the request. -/
  | rejected (e : BusError) (hx : x.1 = .error e) (hs : callsOf [.send] x.2.trace = [])
      (hstore : x.2.bus.store = l.bus.store)
  /-- The transport takes the request. -/
  | sent (e : Exchange) (hx : x.1 = .ok ()) (hs : callsOf [.send] x.2.trace = [.send e none])
      (hstore : x.2.bus.store.contains l.exchange.messageId = true)
  /-- The transport does not take the request. -/
  | unsent (e : Exchange) (err : BusError) (hx : x.1 = .error err)
      (hs : callsOf [.send] x.2.trace = [.send e (some err)])
      (hstore : x.2.bus.store.contains l.exchange.messageId = false)

theorem messageId_applyPolicy (hkeep : env.parties.KeepMessageIds) (l : Leg σ) :
    (applyPolicy env l).2.exchange.messageId = l.exchange.messageId := by
  have hmove : Leg.Move env .judge l (applyPolicy env l).2 := .judge l
  exact hmove.messageId hkeep

theorem sendRequest_course (hkeep : env.parties.KeepMessageIds)
    (hl : entriesOf passageKinds l.trace = []) : SendCourse l (sendRequest env l) := by
  have hid : (l.ruling env).exchange.messageId = l.exchange.messageId := by
    have hjudged := messageId_applyPolicy env hkeep l
    rwa [applyPolicy_snd] at hjudged
  -- what is sent is among the passages
  have hsends : ∀ {passages}, entriesOf passageKinds (sendRequest env l).2.trace = passages →
      callsOf [.send] (sendRequest env l).2.trace = callsOf [.send] passages := by
    rintro _ rfl
    exact (callsOf_entriesOf (by decide) _).symm
  cases sending_sendRequest env hl with
  | rejected violation hv hx hpassage hstore => exact .rejected _ hx (hsends hpassage) hstore
  | sent time hv hx hstore hpassage =>
      refine .sent _ hx (hsends hpassage) ?_
      rw [hstore, ← hid]
      exact Table.contains_insert_self _ _ _
  | unsent time err hv hx hpassage hstore =>
      refine .unsent _ err hx (hsends hpassage) ?_
      rw [hstore, ← hid]
      exact Table.contains_erase_self _ _

/-! ## A receiver's request -/

/-- A receiver's request is not taken: the policy rejects it, or leaves a message in it and what
comes after it fails. -/
def Untaken (ruling : Ruling) (failed : Prop) : Prop :=
  ruling.violation ≠ none ∨ ruling.exchange.input ≠ none ∧ failed

/-- A request with a response is kept when the policy has judged it. -/
theorem store_judged (sync : Bool) :
    (l.judged env (.requestResponse sync)).bus.store = (persist l).2.bus.store := by
  have harrive : arrive env (.requestResponse sync) l = notify env .netInPost (persist l).2 :=
    bind_of_ok (persist_fst l) _
  rw [Leg.judged, (does_applyPolicy env _).store (by decide), harrive,
    (does_notify env _ _).store (by decide)]

/-- A request that the policy rejects is let go. -/
theorem store_rejectRequest (violation : BusError) (sync : Bool) (m : Leg σ) :
    (rejectRequest env violation (.requestResponse sync) m).2.bus.store =
      m.bus.store.erase m.exchange.messageId := by
  have hn := does_notifyFailure env violation m
  have hd := does_deliverError env violation (notifyFailure env violation m).2
  have hend : ∀ told, Does [.call .refuse]
      (refuse env (refusalCause violation told) >>= fun _ => Work.fail violation : Work σ Unit) :=
    fun told => (does_refuse env _).bind fun _ => .fail violation
  rw [rejectRequest, bind_of_ok (notifyFailure_fst env m violation), bind_attempt,
    bind_of_ok (release_fst _), (hend _ _).store (by decide), store_release,
    hd.store (by decide), hn.store (by decide), hd.exchange (by decide), hn.exchange (by decide)]

/-- The courses of a receiver's request with a response, from the leg `m` on which the policy has
given its ruling. -/
inductive ReceiptCourse (sync : Bool) (ruling : Ruling) (m : Leg σ)
    (x : Except BusError Unit × Leg σ) : Prop where
  /-- The policy rejects the request. -/
  | rejected (violation : PolicyViolation) (hv : ruling.violation = some violation)
      (hx : x = rejectRequest env (BusError.ofViolation violation) (.requestResponse sync) m)
  /-- The policy accepts the request, and leaves no message in it. -/
  | empty (hv : ruling.violation = none) (hi : ruling.exchange.input = none)
      (hx : x = (.error (noMessage ruling.exchange .request), m))
  /-- The participant does not take the message. -/
  | undelivered (hv : ruling.violation = none) (message : Message)
      (hi : ruling.exchange.input = some message) (e : BusError)
      (hd : (deliverMessage env message m).1 = .error e)
      (hx : x = (.error e, (release (deliverMessage env message m).2).2))
  /-- The participant takes the message. -/
  | delivered (hv : ruling.violation = none) (message : Message)
      (hi : ruling.exchange.input = some message) (hd : (deliverMessage env message m).1 = .ok ())
      (hx : x = notify env .finished (acknowledge env (deliverMessage env message m).2).2)

theorem incomingRequest_course (sync : Bool) (hscope : l.scope = .request)
    (he : l.exchange.isError = false) :
    ReceiptCourse env sync (l.rulingOnArrival env (.requestResponse sync))
      (l.judged env (.requestResponse sync)) (incomingRequest env (.requestResponse sync) l) := by
  have hx := incomingRequest_of_active env (.requestResponse sync) he
  have hexchange := exchange_judged env (.requestResponse sync) (l := l)
  have hms : (l.judged env (.requestResponse sync)).scope = .request :=
    ((steps_judged env _).scope (by decide)).trans hscope
  generalize l.judged env (.requestResponse sync) = m at hx hexchange hms ⊢
  cases hv : (l.rulingOnArrival env (.requestResponse sync)).violation with
  | some violation =>
      rw [hv] at hx
      exact .rejected violation hv hx
  | none =>
      have hinbound : m.exchange.inbound m.scope =
          (l.rulingOnArrival env (.requestResponse sync)).exchange.input := by
        rw [hms, hexchange]
        rfl
      rw [hv] at hx
      dsimp only at hx
      cases hi : (l.rulingOnArrival env (.requestResponse sync)).exchange.input with
      | none =>
          rw [acceptRequest, bind_inboundMessage_of_none (hinbound.trans hi), hexchange, hms] at hx
          exact .empty hv hi hx
      | some message =>
          rw [acceptRequest, bind_inboundMessage_of_some (hinbound.trans hi), bind_attempt] at hx
          cases hd : (deliverMessage env message m).1 with
          | error e =>
              rw [hd] at hx
              exact .undelivered hv message hi e hd hx
          | ok _ =>
              rw [hd] at hx
              exact .delivered hv message hi hd (hx.trans (bind_of_ok (acknowledge_fst env _) _))

/-- A receiver's request with a response is kept when it arrives, and let go again if it is not
taken, under the identifier that the policy has left in the exchange. -/
theorem store_incomingRequest (sync : Bool) (hscope : l.scope = .request)
    (he : l.exchange.isError = false) :
    let ruling := l.rulingOnArrival env (.requestResponse sync)
    let x := incomingRequest env (.requestResponse sync) l
    (Untaken ruling (x.1 ≠ .ok ()) →
      x.2.bus.store = (persist l).2.bus.store.erase ruling.exchange.messageId) ∧
    (¬ Untaken ruling (x.1 ≠ .ok ()) → x.2.bus.store = (persist l).2.bus.store) := by
  intro ruling x
  have hcourse : ReceiptCourse env sync ruling (l.judged env (.requestResponse sync)) x :=
    incomingRequest_course env sync hscope he
  have hexchange : (l.judged env (.requestResponse sync)).exchange = ruling.exchange :=
    exchange_judged env _
  have hkept := store_judged env (l := l) sync
  generalize l.judged env (.requestResponse sync) = m at hcourse hexchange hkept
  rw [← hexchange, ← hkept]
  cases hcourse with
  | rejected violation hv hx =>
      have hu : ∀ failed, Untaken ruling failed := fun failed =>
        .inl (by rw [hv]; exact Option.some_ne_none violation)
      rw [hx]
      exact ⟨fun _ => store_rejectRequest env _ sync m, fun hno => absurd (hu _) hno⟩
  | empty hv hi hx =>
      have hno : ∀ failed, ¬ Untaken ruling failed := by simp [Untaken, hv, hi]
      rw [hx]
      exact ⟨fun hu => absurd hu (hno _), fun _ => rfl⟩
  | undelivered hv message hi e hd hx =>
      have hm := does_deliverMessage env message m
      have hu : Untaken ruling (x.1 ≠ .ok ()) := by simp [Untaken, hi, hx]
      refine ⟨fun _ => ?_, fun hno => absurd hu hno⟩
      rw [hx, store_release, hm.store (by decide), hm.exchange (by decide)]
  | delivered hv message hi hd hx =>
      have hno : ¬ Untaken ruling (x.1 ≠ .ok ()) := by simp [Untaken, hv, hx]
      refine ⟨fun hu => absurd hu hno, fun _ => ?_⟩
      rw [hx, (does_notify env _ _).store (by decide), (does_acknowledge env _).store (by decide),
        (does_deliverMessage env message m).store (by decide)]

/-- The participant has taken a message. -/
def Handled (trace : List Entry) : Prop :=
  ∃ handler incoming, .handleMessage handler incoming none ∈ callsOf callbackKinds trace

namespace ReceiptCourse

variable {env} {sync : Bool} {ruling : Ruling} {m : Leg σ} {x : Except BusError Unit × Leg σ}
  (h : ReceiptCourse env sync ruling m x)

include h

/-- A request succeeds exactly if the participant takes its message. -/
theorem handled_iff {handler : HandlerName} (hh : m.participant? = some handler)
    (hm : callsOf callbackKinds m.trace = []) : Handled x.2.trace ↔ x.1 = .ok () := by
  cases h with
  | rejected violation hv hx =>
      obtain ⟨failure, hcalls⟩ := callbacks_rejectRequest env (.requestResponse sync) hh
        (BusError.ofViolation violation)
      rw [hm, List.nil_append] at hcalls
      rw [Handled, hx, hcalls, rejectRequest_fst]
      simp
  | empty hv hi hx =>
      rw [Handled, hx, hm]
      simp
  | undelivered hv message hi e hd hx =>
      have hcalls : callsOf callbackKinds x.2.trace =
          callsOf callbackKinds (deliverMessage env message m).2.trace := by
        rw [hx]
        exact (does_release _).callsOf (by decide)
      rw [Handled, hcalls, hx]
      rcases deliverMessage_cases env hh message with ⟨failure, hresult, htold⟩ | ⟨_, -, -, htold⟩
      · -- the handler has been called, and it has failed
        cases failure with
        | none => rw [hresult] at hd; cases hd
        | some failure => rw [htold, hm]; simp
      · rw [htold, hm]
        simp
  | delivered hv message hi hd hx =>
      have hack := does_acknowledge env (deliverMessage env message m).2
      have hend := does_notify env .finished (acknowledge env (deliverMessage env message m).2).2
      have hcalls : callsOf callbackKinds x.2.trace =
          callsOf callbackKinds (deliverMessage env message m).2.trace := by
        rw [hx, hend.callsOf (by decide), hack.callsOf (by decide)]
      rw [Handled, hcalls, hx]
      rcases deliverMessage_cases env hh message with ⟨failure, hresult, htold⟩ | ⟨_, -, hfail, -⟩
      · cases failure with
        | some failure => rw [hresult] at hd; cases hd
        | none => rw [htold, hm]; simp
      · rw [hfail] at hd
        cases hd

/-- A request that succeeds is acknowledged. -/
theorem acknowledged (hm : m.signalled = false) (hok : x.1 = .ok ()) :
    ∃ e failure, .acknowledge e failure ∈ callsOf signalKinds x.2.trace := by
  cases h with
  | rejected violation hv hx => rw [hx, rejectRequest_fst] at hok; cases hok
  | empty hv hi hx => rw [hx] at hok; cases hok
  | undelivered hv message hi e hd hx => rw [hx] at hok; cases hok
  | delivered hv message hi hd hx =>
      have hsame : (deliverMessage env message m).2.signalled = false := by
        rw [(does_deliverMessage env message m).signalled_eq (by decide), hm]
      obtain ⟨failure, hack⟩ := callsOf_acknowledge env hsame
      refine ⟨(deliverMessage env message m).2.exchange, failure, ?_⟩
      rw [hx, (does_notify env _ _).callsOf (by decide), hack]
      exact List.mem_append_right _ (List.mem_singleton_self _)

end ReceiptCourse

/-! ## Responses -/

/-- A response that has come in and that nobody waited for is let go. -/
theorem store_takeResponse :
    (takeResponse env false l).2.bus.store = l.bus.store.erase l.exchange.messageId := by
  have hopen := moves_openAnswer env false (release l).2
  have hx : takeResponse env false l =
      openAnswer (failResponse env false) (takeMessage env false) (release l).2 :=
    bind_of_ok (release_fst l) _
  rw [hx, Leg.store_of_moves hopen (by decide) (by decide), store_release]

/-- A response that leaves is let go. -/
theorem store_outgoingResponse (sync : Bool) :
    (outgoingResponse env (.requestResponse sync) l).2.bus.store =
      l.bus.store.erase l.exchange.messageId := by
  have hsend := moves_sendResponse env (release l).2
  have hx : outgoingResponse env (.requestResponse sync) l = sendResponse env (release l).2 :=
    bind_of_ok (release_fst l) _
  rw [hx, Leg.store_of_moves hsend (by decide) (by decide), store_release]

end ServiceBus.Work
