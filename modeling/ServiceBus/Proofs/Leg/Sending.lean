import ServiceBus.Proofs.Leg.Effects

set_option autoImplicit false

/-! # Requests that are kept while they are sent

A request whose response comes later is kept before the transport gets it, so that a response
that comes at once finds it, and let go again when the transport does not take it. The courses of
such a request (`Sending`) therefore tell what is kept at three moments: when the policy judges
the request, when the transport gets it, and at the end (`sending_sendRequest`). -/

namespace ServiceBus

variable {σ : Type} (env : Environment σ)

/-- The exchange, under the identifier of its message, is all that has been added to what is
kept. -/
def Store.Adds (s : Store) (e : Exchange) (s' : Store) : Prop :=
  ∃ time, s'.entries = (e.messageId, ⟨e, time⟩) :: s.entries

/-- An exchange about a new message is added when it is kept. -/
theorem Store.adds_persist {s : Store} {e : Exchange} (h : s.contains e.messageId = false)
    (time : Timestamp) : s.Adds e (s.persist e time) :=
  ⟨time, Table.entries_insert _ h⟩

/-- The ruling of the policy on the leg as it stands, as it is recorded. -/
def Leg.ruled (l : Leg σ) : Entry :=
  ⟨.policy l.exchange l.role l.scope (l.ruling env), l.bus.store⟩

namespace Work

/-- The courses of a request whose response comes later, with what is kept at each passage. -/
inductive Sending (l : Leg σ) (x : Except BusError Unit × Leg σ) : Prop where
  /-- The policy rejects the request. -/
  | rejected (violation : PolicyViolation) (hv : (l.ruling env).violation = some violation)
      (hx : x.1 = .error (BusError.ofViolation violation))
      (hpassage : entriesOf passageKinds x.2.trace = [l.ruled env])
      (hstore : x.2.bus.store = l.bus.store)
  /-- The transport takes the request. -/
  | sent (time : Timestamp) (hv : (l.ruling env).violation = none) (hx : x.1 = .ok ())
      (hstore : x.2.bus.store = l.bus.store.persist (l.ruling env).exchange time)
      (hpassage : entriesOf passageKinds x.2.trace =
        [l.ruled env, ⟨.send (l.ruling env).exchange none, x.2.bus.store⟩])
  /-- The transport does not take the request. -/
  | unsent (time : Timestamp) (err : BusError) (hv : (l.ruling env).violation = none)
      (hx : x.1 = .error err)
      (hpassage : entriesOf passageKinds x.2.trace = [l.ruled env,
        ⟨.send (l.ruling env).exchange (some err),
          l.bus.store.persist (l.ruling env).exchange time⟩])
      (hstore : x.2.bus.store = (l.bus.store.persist (l.ruling env).exchange time).erase
        (l.ruling env).exchange.messageId)

theorem entriesOf_applyPolicy {l : Leg σ} (hl : entriesOf passageKinds l.trace = []) :
    entriesOf passageKinds (applyPolicy env l).2.trace = [l.ruled env] := by
  rw [applyPolicy_snd, Leg.called, entriesOf_concat_of_mem (by simp [Call.kind, passageKinds]), hl,
    List.nil_append]
  rfl

/-- The time at which a leg keeps its exchange. -/
theorem store_persist (l : Leg σ) :
    (persist l).2.bus.store = l.bus.store.persist l.exchange l.supply.now.1 := rfl

theorem sending_sendRequest {l : Leg σ} (hl : entriesOf passageKinds l.trace = []) :
    Sending env l (sendRequest env l) := by
  have hpolicy := entriesOf_applyPolicy env hl
  have hjudged := does_applyPolicy env l
  cases hv : (l.ruling env).violation with
  | some violation =>
      have hp : (applyPolicy env l).1 = .error (BusError.ofViolation violation) := by
        rw [applyPolicy_fst, hv]
      rw [sendRequest, bind_of_error hp]
      exact .rejected violation hv rfl hpolicy (hjudged.store (by decide))
  | none =>
      have hp : (applyPolicy env l).1 = .ok () := by rw [applyPolicy_fst, hv]
      have hexchange : (applyPolicy env l).2.exchange = (l.ruling env).exchange := by
        rw [applyPolicy_snd]
      have hkept := store_persist (applyPolicy env l).2
      rw [hjudged.store (by decide), hexchange] at hkept
      have hpersist := does_persist (applyPolicy env l).2
      have hbefore : entriesOf passageKinds (persist (applyPolicy env l).2).2.trace =
          [l.ruled env] := (hpersist.entriesOf (by decide)).trans hpolicy
      have hsame := (hpersist.exchange (by decide)).trans hexchange
      rw [sendRequest, bind_of_ok hp, bind_of_ok (persist_fst _)]
      -- from here on, only what is kept and what has been called matter
      generalize (applyPolicy env l).2.supply.now.1 = time at hkept
      generalize (persist (applyPolicy env l).2).2 = m at hkept hbefore hsame ⊢
      obtain ⟨failure, s, hresult, hafter⟩ := send_eq env m
      have hsend : entriesOf passageKinds (m.called (.send m.exchange failure) s).trace =
          [l.ruled env, ⟨.send (l.ruling env).exchange failure,
            l.bus.store.persist (l.ruling env).exchange time⟩] := by
        rw [Leg.called, entriesOf_concat_of_mem (by simp [Call.kind, passageKinds]), hbefore, hkept,
          hsame]
        rfl
      rw [bind_attempt, hresult, hafter]
      cases failure with
      | none =>
          have hend : Does noticeActs (notify env .netOutPost >>= fun _ => notify env .finished) :=
            (does_notify env _).bind fun _ => does_notify env _
          have hn := hend (m.called (.send m.exchange none) s)
          have hstore := (hn.store (by decide)).trans hkept
          refine .sent time hv rfl hstore ?_
          rw [hn.entriesOf (by decide), hsend, hstore]
      | some err =>
          refine .unsent time err hv rfl hsend ?_
          rw [← hkept, ← hsame]
          rfl

namespace Sending

variable {env} {l : Leg σ} {x : Except BusError Unit × Leg σ} (h : Sending env l x)
  (hnew : l.bus.store.contains (l.ruling env).exchange.messageId = false)

include h hnew

/-- A request about a new message that has been sent is added to what is kept, before the
transport gets it. -/
theorem of_ok (hok : x.1 = .ok ()) :
    (l.ruling env).violation = none ∧ l.bus.store.Adds (l.ruling env).exchange x.2.bus.store ∧
      entriesOf passageKinds x.2.trace =
        [l.ruled env, ⟨.send (l.ruling env).exchange none, x.2.bus.store⟩] := by
  cases h with
  | rejected violation hv hx => cases hx.symm.trans hok
  | unsent time failure hv hx => cases hx.symm.trans hok
  | sent time hv hx hstore hpassage =>
      refine ⟨hv, ?_, hpassage⟩
      rw [hstore]
      exact Store.adds_persist hnew time

/-- Nothing is left of a request about a new message that has not been sent. -/
theorem of_error {err : BusError} (herr : x.1 = .error err) :
    x.2.bus.store = l.bus.store ∧
      ((∃ violation, (l.ruling env).violation = some violation ∧
        err = BusError.ofViolation violation ∧
        entriesOf passageKinds x.2.trace = [l.ruled env]) ∨
      (l.ruling env).violation = none ∧ ∃ store,
        l.bus.store.Adds (l.ruling env).exchange store ∧
        entriesOf passageKinds x.2.trace =
          [l.ruled env, ⟨.send (l.ruling env).exchange (some err), store⟩]) := by
  cases h with
  | sent time hv hx => cases hx.symm.trans herr
  | rejected violation hv hx hpassage hstore =>
      cases hx.symm.trans herr
      exact ⟨hstore, .inl ⟨violation, hv, rfl, hpassage⟩⟩
  | unsent time failure hv hx hpassage hstore =>
      cases hx.symm.trans herr
      refine ⟨?_, .inr ⟨hv, _, Store.adds_persist hnew time, hpassage⟩⟩
      -- what has been put in is taken away again
      rw [hstore]
      exact Table.erase_insert_self _ hnew

end Sending

end Work

end ServiceBus
