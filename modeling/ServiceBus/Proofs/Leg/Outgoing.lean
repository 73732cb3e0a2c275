import ServiceBus.Proofs.Leg.IncomingResponse

set_option autoImplicit false

/-! # Outgoing requests and responses, step by step

The acts of what leaves. Only a request whose caller waits moves on to the response
(`callActs`), and it is the only one that tells the transport how it ended. -/

namespace ServiceBus.Work

variable {σ : Type} (env : Environment σ)

/-- The acts of sending without a response at once. -/
def sendingActs : List Act :=
  [.draw, .call .notify, .close, .call .policy, .replace, .call .send, .call .sendSync, .keep]

/-- The acts of a request whose caller waits. -/
def callActs : List Act := awaitedActs ++ [.call .sendSync, .respond]

/-- An exchange that is handed over is not marked as failed when it comes back. -/
theorem does_sendSync_ensureNotError :
    Does [.call .sendSync, .replace] (do sendSync env; ensureNotError) :=
  (does_sendSync env).bind fun _ => does_ensureNotError.mono (by decide)

theorem does_sendOneWay : Does sendingActs (sendOneWay env) := by
  have hend : Does sendingActs (notify env .finished) := (does_notify env _).mono (by decide)
  unfold sendOneWay
  refine ((does_applyPolicy env).mono (by decide)).bind fun _ => ?_
  refine ((does_sendSync_ensureNotError env).mono (by decide)).attempt.bind fun sent => ?_
  cases sent with
  | ok _ => exact ((does_notify env _).mono (by decide)).bind fun _ => hend
  | error e =>
      refine ((does_notifyFailure env e).mono (by decide)).bind fun _ => ?_
      exact hend.bind fun _ => .fail e

theorem does_sendRequest : Does sendingActs (sendRequest env) := by
  unfold sendRequest
  refine ((does_applyPolicy env).mono (by decide)).bind fun _ => ?_
  refine (does_persist.mono (by decide)).bind fun _ => ?_
  refine ((does_send env).mono (by decide)).attempt.bind fun sent => ?_
  cases sent with
  | error e => exact (does_release.mono (by decide)).bind fun _ => .fail e
  | ok _ =>
      refine ((does_notify env _).mono (by decide)).bind fun _ => ?_
      exact (does_notify env _).mono (by decide)

/-- The leg moves on to the response. -/
theorem does_respond :
    Does [.respond] (change fun l => { l with scope := .response } : Work σ Unit) :=
  fun l => .single (.respond l) List.mem_cons_self

theorem does_callAndWait : Does callActs (callAndWait env) := by
  unfold callAndWait
  refine ((does_applyPolicy env).mono (by decide)).bind fun _ => ?_
  refine ((does_sendSync env).mono (by decide)).bind fun _ => ?_
  refine ((does_notify env _).mono (by decide)).bind fun _ => ?_
  refine (does_respond.mono (by decide)).bind fun _ => ?_
  exact (does_takeResponse_sync env).mono (by decide)

/-- What a waiting caller's request hands to the transport is the exchange that the policy has
left, if it has accepted it. -/
theorem sendSync_of_callAndWait {l : Leg σ} (hl : callsOf [.sendSync] l.trace = [])
    {sent : Exchange} {limit : Nat} {a : Answer}
    (hsent : .sendSync sent limit a ∈ callsOf [.sendSync] (callAndWait env l).2.trace) :
    (applyPolicy env l).1 = .ok () ∧ limit = env.settings.exchange.callTimeout ∧
      a = (applyPolicy env l).2.answer env := by
  have hnone : callsOf [.sendSync] (applyPolicy env l).2.trace = [] :=
    ((does_applyPolicy env l).callsOf (by decide)).trans hl
  cases hp : (applyPolicy env l).1 with
  | error violation =>
      -- a rejected request hands nothing over
      rw [callAndWait, bind_of_error hp, hnone] at hsent
      cases hsent
  | ok _ =>
      have htail : ∀ _ : Unit, Does (.respond :: responseActs) (do
          notify env .netOutPost
          change fun l => { l with scope := .response }
          takeResponse env true) := by
        intro _
        refine ((does_notify env _).mono (by decide)).bind fun _ => ?_
        refine (does_respond.mono (by decide)).bind fun _ => ?_
        exact (does_takeResponse env true).mono (by decide)
      rw [callAndWait, bind_of_ok hp, bind_frame (fun m => callsOf [.sendSync] m.trace)
        (fun a m => (htail a m).callsOf (by decide)), sendSync_snd, Leg.called,
        callsOf_concat_of_mem (by simp [Call.kind]), hnone, List.nil_append,
        List.mem_singleton] at hsent
      cases hsent
      exact ⟨rfl, rfl, rfl⟩

/-- The leg of a waiting caller's request that the transport has answered, as it goes on with the
response. -/
def awaiting (l : Leg σ) : Leg σ :=
  { (notify env .netOutPost (sendSync env (applyPolicy env l).2).2).2 with scope := .response }

/-- The acts between the opening of a request and the wait for its response. -/
def awaitingActs : List Act :=
  [.call .policy, .replace, .call .sendSync, .draw, .call .notify, .close, .respond]

theorem steps_awaiting (l : Leg σ) : Leg.Steps awaitingActs l (awaiting env l) := by
  have hpolicy := does_applyPolicy env l
  have hsend := does_sendSync env (applyPolicy env l).2
  have hnotice := does_notify env .netOutPost (sendSync env (applyPolicy env l).2).2
  refine Leg.Steps.trans ?_ (.single (.respond _) (by decide))
  refine Leg.Steps.trans ?_ (hnotice.mono (by decide))
  exact (hpolicy.mono (by decide)).trans (hsend.mono (by decide))

theorem exchange_awaiting (l : Leg σ) :
    (awaiting env l).exchange = ((applyPolicy env l).2.answer env).exchange := by
  have hn := does_notify env .netOutPost (sendSync env (applyPolicy env l).2).2
  show (notify env .netOutPost (sendSync env (applyPolicy env l).2).2).2.exchange = _
  rw [hn.exchange (by decide), sendSync_snd]

theorem policies_awaiting (l : Leg σ) :
    callsOf [.policy] (awaiting env l).trace =
      callsOf [.policy] l.trace ++ [.policy l.exchange l.role l.scope (l.ruling env)] := by
  have hsend := does_sendSync env (applyPolicy env l).2
  have hn := does_notify env .netOutPost (sendSync env (applyPolicy env l).2).2
  show callsOf [.policy] (notify env .netOutPost (sendSync env (applyPolicy env l).2).2).2.trace = _
  rw [hn.callsOf (by decide), hsend.callsOf (by decide), policies_applyPolicy]

theorem callAndWait_of_sent {l : Leg σ} (hp : (applyPolicy env l).1 = .ok ())
    (hs : (sendSync env (applyPolicy env l).2).1 = .ok ()) :
    callAndWait env l = takeResponse env true (awaiting env l) := by
  rw [callAndWait, bind_of_ok hp, bind_of_ok hs]
  rfl

/-- A waiting caller's request that the transport has answered in time goes on as a response,
with the exchange as the transport has left it. -/
theorem callAndWait_of_answer {l : Leg σ} (hl : callsOf [.sendSync] l.trace = [])
    {sent : Exchange} {limit : Nat} {a : Answer}
    (hsent : .sendSync sent limit a ∈ callsOf [.sendSync] (callAndWait env l).2.trace)
    (hok : a.failure? limit = none) :
    ∃ m, callAndWait env l = takeResponse env true m ∧ m.exchange = a.exchange ∧
      m.role = l.role ∧ m.scope = .response ∧ m.failure = l.failure := by
  obtain ⟨hp, rfl, rfl⟩ := sendSync_of_callAndWait env hl hsent
  have hsteps := steps_awaiting env l
  refine ⟨awaiting env l, callAndWait_of_sent env hp ?_, exchange_awaiting env l, hsteps.role, rfl,
    hsteps.failure (by decide)⟩
  rw [sendSync_fst, hok]

/-- A waiting caller's request that does not fail goes on as a response. -/
theorem callAndWait_of_ok {l : Leg σ} (h : (callAndWait env l).1 = .ok ()) :
    callAndWait env l = takeResponse env true (awaiting env l) := by
  cases hp : (applyPolicy env l).1 with
  | error e =>
      rw [callAndWait, bind_of_error hp] at h
      cases h
  | ok _ =>
      cases hs : (sendSync env (applyPolicy env l).2).1 with
      | error e =>
          rw [callAndWait, bind_of_ok hp, bind_of_error hs] at h
          cases h
      | ok _ => exact callAndWait_of_sent env hp hs

theorem does_outgoingRequest (variant : Variant) :
    Does (sendingActs ++ callActs) (outgoingRequest env variant) := by
  have hone : Does (sendingActs ++ callActs) (sendOneWay env) :=
    (does_sendOneWay env).mono (by decide)
  cases variant with
  | oneWay => exact hone
  | callback => exact hone
  | requestResponse sync =>
      cases sync with
      | false => exact (does_sendRequest env).mono (by decide)
      | true => exact (does_callAndWait env).mono (by decide)

theorem does_sendResponse : Does sendingActs (sendResponse env) := by
  -- the policy is asked or not, and then the same is done
  have hrest : ∀ _ : Unit, Does sendingActs (do
      sendSync env
      ensureNotError
      notify env .netOutPost
      notify env .finished) := by
    intro _
    refine ((does_sendSync env).mono (by decide)).bind fun _ => ?_
    refine (does_ensureNotError.mono (by decide)).bind fun _ => ?_
    refine ((does_notify env _).mono (by decide)).bind fun _ => ?_
    exact (does_notify env _).mono (by decide)
  unfold sendResponse
  refine Does.exchange.bind fun e => ?_
  split
  · exact hrest ()
  · exact ((does_applyPolicy env).mono (by decide)).bind hrest

theorem does_outgoingResponse (variant : Variant) :
    Does sendingActs (outgoingResponse env variant) := by
  cases variant with
  | oneWay => exact does_sendResponse env
  | callback => exact does_sendResponse env
  | requestResponse sync =>
      exact (does_release.mono (by decide)).bind fun _ => does_sendResponse env

end ServiceBus.Work
