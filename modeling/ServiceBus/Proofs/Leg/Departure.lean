import ServiceBus.Proofs.Leg.Outgoing

set_option autoImplicit false

/-! # What leaves, and what the policy says to it

What leaves has been judged by the policy. If the policy rejects it, the leg ends there
(`LeavingCourse.rejected`). If the policy accepts it, one call hands the exchange over as the
policy has left it, and after that only the policy may still be asked, about a response
(`LeavingCourse.accepted`). A response that is marked as failed is handed over without asking the
policy (`handsOver_outgoingResponse`).

Of a response that comes in, the policy is asked once if there is something to judge in it
(`Exchange.toBeJudged`), and otherwise not at all (`callsOf_takeResponse`). -/

namespace ServiceBus

/-- Whether a response has something in it for the policy to judge: it is not marked as failed,
and brings a message that is no fault document. -/
def Exchange.toBeJudged (e : Exchange) : Bool :=
  !e.isError && (e.inbound .response).any fun message => (BusError.ofFault? message.body).isNone

namespace Work

variable {σ α β : Type} (env : Environment σ) {l : Leg σ}

/-! ## Responses that come in -/

/-- The calls by which a response on the leg is judged. -/
def judgement (l : Leg σ) : List Call :=
  if l.exchange.toBeJudged then [.policy l.exchange l.role l.scope (l.ruling env)] else []

theorem judgement_letGo (sync : Bool) (l : Leg σ) :
    judgement env (letGo sync l).2 = judgement env l := by
  cases sync <;> rfl

/-- A response is judged if there is something to judge in it. -/
theorem callsOf_takeResponse {kinds : List CallKind} (hp : .policy ∈ kinds)
    (hk : ∀ kind ∈ kinds, .call kind ∉ answerActs) (sync : Bool) (hscope : l.scope = .response) :
    callsOf kinds (takeResponse env sync l).2.trace = callsOf kinds l.trace ++ judgement env l := by
  have hgo := does_letGo sync l
  have hcourse := takeResponse_course env sync l
  have hm : callsOf kinds (letGo sync l).2.trace = callsOf kinds l.trace :=
    hgo.callsOf fun _ _ => by simp
  have hms : (letGo sync l).2.scope = .response := (hgo.scope (by decide)).trans hscope
  have hf : ∀ e m, callsOf kinds (failResponse env sync e m).2.trace = callsOf kinds m.trace :=
    fun e m => ((does_failResponse env sync e m).mono (by decide)).callsOf hk
  have hc : ∀ remote message m,
      callsOf kinds (concludeResponse env sync remote message m).2.trace = callsOf kinds m.trace :=
    fun remote message m => (does_concludeResponse env sync remote message m).callsOf hk
  rw [← judgement_letGo env sync, ← hm]
  generalize (letGo sync l).2 = m at hcourse hms
  cases hcourse with
  | marked he hx => simp [hx, hf, judgement, Exchange.toBeJudged, he]
  | silent he hi hx =>
      rw [hms] at hi
      simp [hx, judgement, Exchange.toBeJudged, hi]
  | reported he message hi remote hfault hx =>
      rw [hms] at hi
      simp [hx, hc, judgement, Exchange.toBeJudged, hi, hfault]
  | rejected he message hi hfault violation hv hx =>
      have hj : m.exchange.toBeJudged = true := by
        rw [hms] at hi
        simp [Exchange.toBeJudged, he, hi, hfault]
      rw [hx, hf, callsOf_applyPolicy env m hp, judgement, if_pos hj]
  | accepted he message hi hfault hv hx =>
      have hj : m.exchange.toBeJudged = true := by
        rw [hms] at hi
        simp [Exchange.toBeJudged, he, hi, hfault]
      rw [hx, hc, callsOf_applyPolicy env m hp, judgement, if_pos hj]

theorem judges_of_mem_judgement (hrole : l.role = .sender) (hscope : l.scope = .response)
    {c : Call} (h : c ∈ judgement env l) : c.judges .sender .response = true := by
  unfold judgement at h
  split at h
  · rw [List.mem_singleton.mp h, hrole, hscope]
    rfl
  · cases h

/-! ## Handing over -/

/-- The work hands the exchange over as it stands. Later the policy is asked at most about a
response, and only on a leg of a sender. -/
def HandsOver (x : Work σ α) (l : Leg σ) : Prop :=
  ∃ call later, call.handed? = some l.exchange ∧
    (∀ c ∈ later, l.role = .sender ∧ c.judges .sender .response = true) ∧
    callsOf passageKinds (x l).2.trace = callsOf passageKinds l.trace ++ call :: later

namespace HandsOver

theorem sendSync (l : Leg σ) : HandsOver (Work.sendSync env) l :=
  ⟨_, [], rfl, by simp, callsOf_sendSync env l (by decide)⟩

theorem send (l : Leg σ) : HandsOver (Work.send env) l := by
  obtain ⟨failure, s, -, hafter⟩ := send_eq env l
  refine ⟨.send l.exchange failure, [], rfl, by simp, ?_⟩
  rw [hafter, Leg.called]
  exact callsOf_concat_of_mem (by simp [Call.kind, passageKinds]) _

/-- What follows judges nothing and hands nothing over. -/
theorem bind_left (acts : List Act) {x : Work σ α} {f : α → Work σ β} (hx : HandsOver x l)
    (hf : ∀ a, Does acts (f a)) (hacts : ∀ kind ∈ passageKinds, .call kind ∉ acts) :
    HandsOver (x >>= f) l := by
  obtain ⟨call, later, hcall, hlater, hcalls⟩ := hx
  refine ⟨call, later, hcall, hlater, ?_⟩
  rw [bind_frame (fun m => callsOf passageKinds m.trace) fun a m => (hf a m).callsOf hacts]
  exact hcalls

/-- What comes before succeeds, judges nothing, hands nothing over and leaves the exchange. -/
theorem bind_right {acts : List Act} {x : Work σ α} {f : α → Work σ β} {a : α}
    (h : (x l).1 = .ok a) (hx : Does acts x) (hacts : ∀ kind ∈ passageKinds, .call kind ∉ acts)
    (hr : .replace ∉ acts) (hf : HandsOver (f a) (x l).2) : HandsOver (x >>= f) l := by
  obtain ⟨call, later, hcall, hlater, hcalls⟩ := hf
  rw [(hx l).role] at hlater
  refine ⟨call, later, ?_, hlater, ?_⟩
  · rw [hcall, (hx l).exchange hr]
  · rw [bind_of_ok h, hcalls, (hx l).callsOf hacts]

theorem attempt {x : Work σ α} (hx : HandsOver x l) : HandsOver (Work.attempt x) l := hx

end HandsOver

theorem handsOver_sendSync_ensureNotError (l : Leg σ) :
    HandsOver (sendSync env >>= fun _ => ensureNotError) l :=
  (HandsOver.sendSync env l).bind_left [] (fun _ => does_ensureNotError) (by decide)

/-- The transport takes the exchange, and when it answers in time, the response is taken. -/
theorem handsOver_awaiting (hrole : l.role = .sender) :
    HandsOver (do
      sendSync env
      notify env .netOutPost
      change fun l => { l with scope := .response }
      takeResponse env true) l := by
  have hsend := does_sendSync env l
  obtain ⟨call, hcall, hcalls⟩ : ∃ call : Call, call.handed? = some l.exchange ∧
      callsOf passageKinds (sendSync env l).2.trace = callsOf passageKinds l.trace ++ [call] :=
    ⟨_, rfl, callsOf_sendSync env l (by decide)⟩
  cases hs : (sendSync env l).1 with
  | error e =>
      refine ⟨call, [], hcall, by simp, ?_⟩
      rw [bind_of_error hs, hcalls]
  | ok _ =>
      have hn := does_notify env .netOutPost (sendSync env l).2
      let m : Leg σ := { (notify env .netOutPost (sendSync env l).2).2 with scope := .response }
      have hx : (do
          sendSync env
          notify env .netOutPost
          change fun l => { l with scope := .response }
          takeResponse env true : Work σ Unit) l = takeResponse env true m := by
        rw [bind_of_ok hs]
        rfl
      have hm : callsOf passageKinds m.trace = callsOf passageKinds (sendSync env l).2.trace :=
        hn.callsOf (by decide)
      have htaken : callsOf passageKinds (takeResponse env true m).2.trace =
          callsOf passageKinds m.trace ++ judgement env m :=
        callsOf_takeResponse env (by decide) (by decide) true rfl
      have hmr : m.role = .sender := (hn.role.trans hsend.role).trans hrole
      refine ⟨call, judgement env m, hcall,
        fun c hc => ⟨hrole, judges_of_mem_judgement env hmr rfl hc⟩, ?_⟩
      rw [hx, htaken, hm, hcalls, List.append_assoc]
      rfl

/-! ## A caller that waits -/

/-- The answer that a caller waits for is judged if there is something to judge in it. -/
theorem policies_callAndWait_of_answer (hl : callsOf [.sendSync] l.trace = [])
    {sent : Exchange} {limit : Nat} {a : Answer}
    (hsent : .sendSync sent limit a ∈ callsOf [.sendSync] (callAndWait env l).2.trace)
    (hok : a.failure? limit = none) :
    ∃ m : Leg σ, m.exchange = a.exchange ∧ m.role = l.role ∧ m.scope = .response ∧
      callsOf [.policy] (callAndWait env l).2.trace = callsOf [.policy] l.trace ++
        .policy l.exchange l.role l.scope (l.ruling env) :: judgement env m := by
  obtain ⟨hp, rfl, rfl⟩ := sendSync_of_callAndWait env hl hsent
  have hs : (sendSync env (applyPolicy env l).2).1 = .ok () := by rw [sendSync_fst, hok]
  refine ⟨awaiting env l, exchange_awaiting env l, (steps_awaiting env l).role, rfl, ?_⟩
  rw [callAndWait_of_sent env hp hs,
    callsOf_takeResponse env List.mem_cons_self (by decide) true rfl, policies_awaiting,
    List.append_assoc]
  rfl

/-- If no answer comes in time, the policy is asked about the request only. -/
theorem policies_callAndWait_of_unanswered
    (h : ∀ sent limit a, .sendSync sent limit a ∈ callsOf [.sendSync] (callAndWait env l).2.trace →
      a.failure? limit ≠ none) :
    callsOf [.policy] (callAndWait env l).2.trace =
      callsOf [.policy] l.trace ++ [.policy l.exchange l.role l.scope (l.ruling env)] := by
  cases hp : (applyPolicy env l).1 with
  | error violation => rw [callAndWait, bind_of_error hp, policies_applyPolicy]
  | ok _ =>
      have hsend := does_sendSync env (applyPolicy env l).2
      cases hs : (sendSync env (applyPolicy env l).2).1 with
      | error e =>
          rw [callAndWait, bind_of_ok hp, bind_of_error hs, hsend.callsOf (by decide),
            policies_applyPolicy]
      | ok _ =>
          -- the answer has come in time, and it is in the trace
          have hn := does_notify env .netOutPost (sendSync env (applyPolicy env l).2).2
          have hx := callAndWait_of_sent env hp hs
          have htaken : callsOf [.sendSync] (takeResponse env true (awaiting env l)).2.trace =
              callsOf [.sendSync] (awaiting env l).trace :=
            (does_takeResponse env true (awaiting env l)).callsOf (by decide)
          have hcalls : callsOf [.sendSync] (awaiting env l).trace =
              callsOf [.sendSync] (sendSync env (applyPolicy env l).2).2.trace :=
            hn.callsOf (by decide)
          have hmem : .sendSync (applyPolicy env l).2.exchange env.settings.exchange.callTimeout
              ((applyPolicy env l).2.answer env) ∈
                callsOf [.sendSync] (callAndWait env l).2.trace := by
            rw [hx, htaken, hcalls, callsOf_sendSync env _ List.mem_cons_self]
            exact List.mem_append_right _ (List.mem_singleton_self _)
          rw [sendSync_fst] at hs
          cases hf : ((applyPolicy env l).2.answer env).failure?
              env.settings.exchange.callTimeout with
          | none => exact absurd hf (h _ _ _ hmem)
          | some e => rw [hf] at hs; cases hs

/-! ## The courses of what leaves -/

/-- The courses of what leaves through the policy, from the leg `l`. -/
inductive LeavingCourse (l : Leg σ) (x : Except BusError Unit × Leg σ) : Prop where
  /-- The policy rejects it, and nothing more is asked. -/
  | rejected (violation : PolicyViolation) (hv : (l.ruling env).violation = some violation)
      (hx : x.1 = .error (BusError.ofViolation violation)) (hscope : x.2.scope = l.scope)
      (hcalls : callsOf passageKinds x.2.trace =
        callsOf passageKinds l.trace ++ [.policy l.exchange l.role l.scope (l.ruling env)])
      (hsignals : callsOf signalKinds x.2.trace = callsOf signalKinds l.trace)
  /-- The policy accepts it, and it is handed over as the policy leaves it. -/
  | accepted (hv : (l.ruling env).violation = none) (call : Call) (later : List Call)
      (hcall : call.handed? = some (l.ruling env).exchange)
      (hlater : ∀ c ∈ later, l.role = .sender ∧ c.judges .sender .response = true)
      (hcalls : callsOf passageKinds x.2.trace = callsOf passageKinds l.trace ++
        .policy l.exchange l.role l.scope (l.ruling env) :: call :: later)

theorem leavingCourse_of_handsOver {f : Unit → Work σ Unit}
    (hf : HandsOver (f ()) (applyPolicy env l).2) :
    LeavingCourse env l ((applyPolicy env >>= f) l) := by
  have hpolicy := applyPolicy_fst env l
  cases hv : (l.ruling env).violation with
  | some violation =>
      have hsteps := does_applyPolicy env l
      rw [hv] at hpolicy
      rw [bind_of_error hpolicy]
      exact .rejected violation hv rfl (hsteps.scope (by decide))
        (callsOf_applyPolicy env l (by decide)) (hsteps.callsOf (by decide))
  | none =>
      rw [hv] at hpolicy
      obtain ⟨call, later, hcall, hlater, hcalls⟩ := hf
      rw [(does_applyPolicy env l).role] at hlater
      refine .accepted hv call later ?_ hlater ?_
      · rw [hcall, applyPolicy_snd]
      · rw [bind_of_ok hpolicy, hcalls, callsOf_applyPolicy env l (by decide), List.append_assoc]
        rfl

theorem leavingCourse_sendOneWay (l : Leg σ) : LeavingCourse env l (sendOneWay env l) := by
  refine leavingCourse_of_handsOver env ?_
  refine (handsOver_sendSync_ensureNotError env _).attempt.bind_left noticeActs (fun sent => ?_)
    (by decide)
  cases sent with
  | ok _ => exact (does_notify env _).bind fun _ => does_notify env _
  | error e =>
      exact (does_notifyFailure env e).bind fun _ => (does_notify env _).bind fun _ => .fail e

theorem leavingCourse_sendRequest (l : Leg σ) : LeavingCourse env l (sendRequest env l) := by
  refine leavingCourse_of_handsOver env ?_
  refine HandsOver.bind_right (persist_fst _) does_persist (by decide) (by decide) ?_
  refine (HandsOver.send env _).attempt.bind_left (.keep :: noticeActs) (fun sent => ?_)
    (by decide)
  cases sent with
  | error e => exact (does_release.mono (by decide)).bind fun _ => .fail e
  | ok _ =>
      refine ((does_notify env _).mono (by decide)).bind fun _ => ?_
      exact (does_notify env _).mono (by decide)

theorem leavingCourse_callAndWait (hrole : l.role = .sender) :
    LeavingCourse env l (callAndWait env l) :=
  leavingCourse_of_handsOver env
    (handsOver_awaiting env ((does_applyPolicy env l).role.trans hrole))

theorem leavingCourse_outgoingRequest (hrole : l.role = .sender) (variant : Variant) :
    LeavingCourse env l (outgoingRequest env variant l) := by
  cases variant with
  | oneWay => exact leavingCourse_sendOneWay env l
  | callback => exact leavingCourse_sendOneWay env l
  | requestResponse sync =>
      cases sync with
      | false => exact leavingCourse_sendRequest env l
      | true => exact leavingCourse_callAndWait env hrole

/-! ## Responses that leave -/

/-- How a response is handed over, whether or not it has been judged. -/
theorem handsOver_response (l : Leg σ) :
    HandsOver (do
      sendSync env
      ensureNotError
      notify env .netOutPost
      notify env .finished) l := by
  refine (HandsOver.sendSync env l).bind_left noticeActs (fun _ => ?_) (by decide)
  refine (does_ensureNotError.mono (by decide)).bind fun _ => ?_
  exact (does_notify env _).bind fun _ => does_notify env _

/-- A response that is marked as failed is handed over as it is. -/
theorem handsOver_sendResponse (h : l.exchange.isError = true) :
    HandsOver (sendResponse env) l := by
  have hx : sendResponse env l = (do
      sendSync env
      ensureNotError
      notify env .netOutPost
      notify env .finished : Work σ Unit) l := by
    unfold sendResponse
    rw [bind_exchange, if_pos h]
  unfold HandsOver
  rw [hx]
  exact handsOver_response env l

theorem handsOver_outgoingResponse (h : l.exchange.isError = true) (variant : Variant) :
    HandsOver (outgoingResponse env variant) l := by
  cases variant with
  | oneWay => exact handsOver_sendResponse env h
  | callback => exact handsOver_sendResponse env h
  | requestResponse sync =>
      exact .bind_right (release_fst l) does_release (by decide) (by decide)
        (handsOver_sendResponse env (l := (release l).2) h)

theorem leavingCourse_sendResponse (h : l.exchange.isError = false) :
    LeavingCourse env l (sendResponse env l) := by
  unfold sendResponse
  rw [bind_exchange, if_neg (by simp [h])]
  exact leavingCourse_of_handsOver env (handsOver_response env _)

/-- It makes no difference to what leaves if the exchange is let go first. -/
theorem LeavingCourse.of_release {x : Except BusError Unit × Leg σ}
    (h : LeavingCourse env (release l).2 x) : LeavingCourse env l x := by
  cases h with
  | rejected violation hv hx hscope hcalls hsignals =>
      exact .rejected violation hv hx hscope hcalls hsignals
  | accepted hv call later hcall hlater hcalls => exact .accepted hv call later hcall hlater hcalls

theorem leavingCourse_outgoingResponse (h : l.exchange.isError = false) (variant : Variant) :
    LeavingCourse env l (outgoingResponse env variant l) := by
  cases variant with
  | oneWay => exact leavingCourse_sendResponse env h
  | callback => exact leavingCourse_sendResponse env h
  | requestResponse sync =>
      exact .of_release env (leavingCourse_sendResponse env (l := (release l).2) h)

end Work

end ServiceBus
