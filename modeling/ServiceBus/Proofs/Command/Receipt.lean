import ServiceBus.Proofs.Command.Reception
import ServiceBus.Proofs.Leg.Keeping

set_option autoImplicit false

/-! # What is left of a request that is not taken

A receiver's request with a response is kept while its participant takes it. An execution of it
comes to one of four things (`Receipt`), which differ in what is left in the store. A request that
was not kept before is kept afterwards exactly if it has been taken, and is otherwise as if it had
never come; only a request whose message the policy takes out is refused and yet kept
(`kept_iff_taken`, `bare_order_kept`). -/

namespace ServiceBus.Command

open Work

variable {σ : Type} (env : Environment σ) {c : Command} {e : Exchange}

/-! ## What an execution comes to -/

/-- The transport has been told that the request has succeeded. -/
def Acknowledged (trace : List Entry) : Prop :=
  ∃ e failure, .acknowledge e failure ∈ callsOf [.acknowledge] trace

/-- The transport has been told that the request has failed. -/
def Refused (trace : List Entry) : Prop :=
  ∃ e cause failure, .refuse e cause failure ∈ callsOf [.refuse] trace

/-- What the execution `x` of a receiver's request with a response comes to. -/
inductive Receipt (e : Exchange) (bus : Bus σ) (x : Execution σ Unit) : Prop where
  /-- The policy is not asked: nobody takes the request, or it is marked as failed. -/
  | unasked (hp : callsOf [.policy] x.trace = []) (hf : x.command.failure ≠ none)
      (hm : ¬ Handled x.trace) (hstore : x.bus.store = bus.store)
  /-- The policy rejects the request, or the participant does not take its message. -/
  | untaken (ruling : Ruling)
      (hp : callsOf [.policy] x.trace = [.policy e .receiver .request ruling])
      (hr : ruling.violation ≠ none ∨ ruling.exchange.input ≠ none)
      (hf : x.command.failure ≠ none) (hm : ¬ Handled x.trace) (time : Timestamp)
      (hstore : x.bus.store = (Store.persist bus.store e time).erase e.messageId)
  /-- The policy accepts the request, and leaves no message in it. -/
  | emptied (e' : Exchange)
      (hp : callsOf [.policy] x.trace = [.policy e .receiver .request ⟨e', none⟩])
      (hi : e'.input = none) (hf : x.command.failure = some (noMessage e' .request))
      (hm : ¬ Handled x.trace) (hack : ¬ Acknowledged x.trace) (time : Timestamp)
      (hstore : x.bus.store = Store.persist bus.store e time)
  /-- The participant takes the message. -/
  | taken (he : e.isError = false) (e' : Exchange)
      (hp : callsOf [.policy] x.trace = [.policy e .receiver .request ⟨e', none⟩])
      (hi : e'.input ≠ none) (hf : x.command.failure = none) (hm : Handled x.trace)
      (hack : Acknowledged x.trace) (time : Timestamp)
      (hstore : x.bus.store = Store.persist bus.store e time)

/-- The work of an execution, as what is read off the execution. -/
structure WorkOf (x : Except BusError Unit × Leg σ) (y : Execution σ Unit) : Prop where
  calls {kinds : List CallKind} (hn : .notify ∉ kinds) (hr : .refuse ∉ kinds) :
    callsOf kinds y.trace = callsOf kinds x.2.trace
  store : y.bus.store = x.2.bus.store
  failure : y.command.failure = failureOf x.1

theorem execute_workOf (h : c.ready = .ok (.receiver, .request, e)) (bus : Bus σ)
    (supply : Supply) :
    WorkOf (work env c.variant .receiver .request (c.opening .receiver .request e bus supply))
      (c.execute env bus supply) where
  calls hn hr := callsOf_execute env h bus supply hn hr
  store := execute_store env h bus supply
  failure := execute_request_failure env h bus supply

section Work

variable {env} {bus : Bus σ} {x : Except BusError Unit × Leg σ} {y : Execution σ Unit}
  (hy : WorkOf x y)

include hy

/-- Work that fails before the policy is asked leaves nothing behind. -/
theorem WorkOf.unasked (hx : x.1 ≠ .ok ()) (hp : callsOf [.policy] x.2.trace = [])
    (hm : ¬ Handled x.2.trace) (hstore : x.2.bus.store = bus.store) : Receipt e bus y := by
  refine .unasked ((hy.calls (by decide) (by decide)).trans hp) ?_ ?_ (hy.store.trans hstore)
  · rw [hy.failure]
    exact failureOf_ne_none_iff.mpr hx
  · rw [Handled, hy.calls (by decide) (by decide)]
    exact hm

/-- Work that the policy is asked about comes to what its course comes to. -/
theorem WorkOf.asked {sync : Bool} {l : Leg σ} {handler : HandlerName}
    (hl : Received handler e l) (hstore : l.bus.store = bus.store)
    (he : e.isError = false)
    (hid : (l.rulingOnArrival env (.requestResponse sync)).exchange.messageId = e.messageId)
    (hx : x = incomingRequest env (.requestResponse sync) l) : Receipt e bus y := by
  have hle : l.exchange.isError = false := by rw [hl.exchange, he]
  -- the course from the ruling on, and the store as the request has been kept in it
  have hcourse := incomingRequest_course env sync hl.scope hle
  have hpolicies := hl.policies_of_active env he (.requestResponse sync)
  obtain ⟨hgone, hkept⟩ := store_incomingRequest env sync hl.scope hle
  have hsteps := steps_judged env (.requestResponse sync) (l := l)
  have hpersist : (persist l).2.bus.store = Store.persist bus.store e l.supply.now.1 := by
    rw [← hstore, ← hl.exchange]
    rfl
  rw [← hx] at hcourse hpolicies
  rw [← hx, ← hy.store, hpersist, hid] at hgone
  rw [← hx, ← hy.store, hpersist] at hkept
  rw [← hy.calls (by decide) (by decide)] at hpolicies
  -- the participant has taken the message exactly if the work has succeeded
  have hhandled : Handled y.trace ↔ x.1 = .ok () := by
    rw [Handled, hy.calls (by decide) (by decide)]
    exact hcourse.handled_iff (participant?_of_handler hsteps (by decide) hl.handler)
      (by rw [hsteps.callsOf (by decide), hl.callbacks])
  have hfailed : y.command.failure ≠ none ↔ x.1 ≠ .ok () := by
    rw [hy.failure, failureOf_ne_none_iff]
  have hacknowledged := hcourse.acknowledged (by rw [hsteps.signalled_eq (by decide), hl.signalled])
  have hunacknowledged :
      callsOf [.acknowledge] (l.judged env (.requestResponse sync)).trace = [] := by
    rw [hsteps.callsOf (by decide), hl.acknowledgements]
  generalize l.rulingOnArrival env (.requestResponse sync) = ruling at *
  have haccepted : ruling.violation = none → callsOf [.policy] y.trace =
      [.policy e .receiver .request ⟨ruling.exchange, none⟩] := by
    intro hv
    rw [hpolicies, ← hv]
  cases hcourse with
  | rejected violation hv hr =>
      have hfail : x.1 ≠ .ok () := by simp [hr, rejectRequest_fst]
      have hne : ruling.violation ≠ none := by simp [hv]
      exact .untaken ruling hpolicies (.inl hne) (hfailed.mpr hfail)
        (fun hm => hfail (hhandled.mp hm)) _ (hgone (.inl hne))
  | empty hv hi hr =>
      have hfail : x.1 ≠ .ok () := by simp [hr]
      have hfailure : y.command.failure = some (noMessage ruling.exchange .request) := by
        rw [hy.failure, hr]
        rfl
      refine .emptied ruling.exchange (haccepted hv) hi hfailure
        (fun hm => hfail (hhandled.mp hm)) ?_ _ (hkept (by simp [Untaken, hv, hi]))
      rintro ⟨e', failure, hack⟩
      rw [hy.calls (by decide) (by decide), hr, hunacknowledged] at hack
      cases hack
  | undelivered hv message hi err hd hr =>
      have hfail : x.1 ≠ .ok () := by simp [hr]
      have hne : ruling.exchange.input ≠ none := by simp [hi]
      exact .untaken ruling hpolicies (.inr hne) (hfailed.mpr hfail)
        (fun hm => hfail (hhandled.mp hm)) _ (hgone (.inr ⟨hne, hfail⟩))
  | delivered hv message hi hd hr =>
      have hok : x.1 = .ok () := by simp [hr]
      obtain ⟨e', failure, hack⟩ := hacknowledged hok
      refine .taken he ruling.exchange (haccepted hv) (by simp [hi]) ?_ (hhandled.mpr hok)
        ⟨e', failure, ?_⟩ _ (hkept ?_)
      · rw [hy.failure, hok]
        rfl
      · rw [hy.calls (by decide) (by decide)]
        exact mem_callsOf_of_kind _ hack (by simp [Call.kind])
      · simp [Untaken, hv, hok]

end Work

section Ready

variable (h : c.ready = .ok (.receiver, .request, e)) {sync : Bool}
  (hv : c.variant = .requestResponse sync)
  (hid : ∀ agreed s,
    (env.parties.enforce e .receiver agreed .request s).1.exchange.messageId = e.messageId)
  (bus : Bus σ) (supply : Supply)

include h hv hid

theorem execute_receipt : Receipt e bus (c.execute env bus supply) := by
  have hy := execute_workOf env h bus supply
  have hparticipant := opening_participant? c .receiver .request e bus supply
  have hfind := does_resolveHandler (c.opening .receiver .request e bus supply)
  cases hh : c.participant? .receiver e bus with
  | none =>
      rw [work_request_of_none env (hparticipant.trans hh)] at hy
      refine hy.unasked (by simp) (hfind.callsOf (by decide)) ?_ (hfind.store (by decide))
      rw [Handled, hfind.callsOf (by decide)]
      rintro ⟨handler, incoming, hmem⟩
      cases hmem
  | some handler =>
      have hl := received bus supply hh
      have hstore : (c.reception e bus supply).bus.store = bus.store := hfind.store (by decide)
      rw [work_request_of_some env (hparticipant.trans hh), ← reception, hv] at hy
      cases he : e.isError with
      | true =>
          have hle : (c.reception e bus supply).exchange.isError = true := by rw [hl.exchange, he]
          have hturn := does_turnAway env (c.reception e bus supply).exchange.failureError
            (c.reception e bus supply)
          obtain ⟨context, failure, htold⟩ :=
            hl.callbacks_of_isError env he (.requestResponse sync)
          refine hy.unasked ?_ ?_ ?_ ?_
          · simp [incomingRequest_of_isError env _ hle, turnAway_fst]
          · rw [policies_of_isError env _ hle, hl.policies]
          · simp [Handled, htold]
          · rw [incomingRequest_of_isError env _ hle, hturn.store (by decide), hstore]
      | false =>
          refine hy.asked hl hstore he ?_ rfl
          rw [rulingOnArrival_eq, hl.exchange, hl.role, hl.scope]
          exact hid _ _

end Ready

/-- The transport is told exactly one of the two. -/
theorem refused_iff (h : c.ready = .ok (.receiver, .request, e)) (bus : Bus σ) (supply : Supply) :
    Refused (c.execute env bus supply).trace ↔ ¬ Acknowledged (c.execute env bus supply).trace := by
  obtain ⟨call, hsignals⟩ :=
    List.length_eq_one_iff.mp (length_signals_request env h bus supply)
  generalize (c.execute env bus supply).trace = trace at hsignals ⊢
  have hcall : call ∈ callsOf signalKinds trace := hsignals ▸ List.mem_singleton_self call
  have honly : ∀ {kind other}, kind ∈ signalKinds → other ∈ callsOf [kind] trace →
      other = call := by
    intro kind other hk hmem
    have hkind : other.kind = kind := by simpa using (mem_callsOf.mp hmem).2
    have hsignal := mem_callsOf_of_kind signalKinds hmem (by rw [hkind]; exact hk)
    rw [hsignals] at hsignal
    exact List.mem_singleton.mp hsignal
  cases call with
  | acknowledge e' failure =>
      have hack : Acknowledged trace :=
        ⟨e', failure, mem_callsOf_of_kind _ hcall (by simp [Call.kind])⟩
      refine ⟨?_, fun hno => absurd hack hno⟩
      rintro ⟨_, _, _, hrefuse⟩
      cases honly (by decide) hrefuse
  | refuse e' cause failure =>
      refine ⟨?_, fun _ => ⟨e', cause, failure, mem_callsOf_of_kind _ hcall (by simp [Call.kind])⟩⟩
      rintro - ⟨_, _, hack⟩
      cases honly (by decide) hack
  | _ => exact absurd (mem_callsOf.mp hcall).2 (by simp [Call.kind, signalKinds])

/-! ## What is left in the store -/

/-- A request has been taken: its participant has taken the message, and it is acknowledged. -/
def Taken (trace : List Entry) : Prop := Handled trace ∧ Acknowledged trace

/-- The policy has accepted a receiver's request as `e'`, which has no message. -/
def Emptied (e e' : Exchange) (trace : List Entry) : Prop :=
  callsOf [.policy] trace = [.policy e .receiver .request ⟨e', none⟩] ∧ e'.input = none

/-- A request that was not kept before is kept afterwards if and only if it has been taken, and
any other leaves the store as it was, unless the policy has left no message in it. Then the
request is refused for that reason, and yet it is kept. -/
theorem kept_iff_taken (h : c.ready = .ok (.receiver, .request, e)) {sync : Bool}
    (hv : c.variant = .requestResponse sync)
    (hid : ∀ agreed s,
      (env.parties.enforce e .receiver agreed .request s).1.exchange.messageId = e.messageId)
    (bus : Bus σ) (supply : Supply) (hnew : bus.store.contains e.messageId = false) :
    let x := c.execute env bus supply
    ((∀ e', ¬ Emptied e e' x.trace) →
      (x.bus.store.contains e.messageId = true ↔ Taken x.trace) ∧
      (Refused x.trace ∨ x.command.failure ≠ none ∨ e.isError = true →
        x.bus.store = bus.store)) ∧
    (∀ e', Emptied e e' x.trace →
      x.bus.store.contains e.messageId = true ∧ ¬ Taken x.trace ∧ Refused x.trace ∧
        x.command.failure = some (noMessage e' .request)) := by
  intro x
  have hrefused : Refused x.trace ↔ ¬ Acknowledged x.trace := refused_iff env h bus supply
  have hkept : ∀ time, x.bus.store = Store.persist bus.store e time →
      x.bus.store.contains e.messageId = true := by
    intro time hstore
    rw [hstore]
    exact Table.contains_insert_self _ _ _
  -- a request that leaves the store as it was is neither kept nor taken
  have hgone : x.bus.store = bus.store → ¬ Handled x.trace →
      (x.bus.store.contains e.messageId = true ↔ Taken x.trace) := by
    intro hstore hm
    rw [hstore, hnew]
    exact ⟨fun hkept => absurd hkept Bool.false_ne_true, fun ht => absurd ht.1 hm⟩
  cases (execute_receipt env h hv hid bus supply : Receipt e bus x) with
  | unasked hp hf hm hstore =>
      refine ⟨fun _ => ⟨hgone hstore hm, fun _ => hstore⟩, ?_⟩
      rintro e' ⟨hp', -⟩
      rw [hp] at hp'
      cases hp'
  | untaken ruling hp hr hf hm time hstore =>
      have hsame : x.bus.store = bus.store := hstore.trans (Table.erase_insert_self _ hnew)
      refine ⟨fun _ => ⟨hgone hsame hm, fun _ => hsame⟩, ?_⟩
      rintro e' ⟨hp', hi⟩
      rw [hp] at hp'
      cases hp'
      exact absurd hi (hr.resolve_left fun hne => hne rfl)
  | emptied e' hp hi hf hm hack time hstore =>
      -- nothing has let the request go when it failed for want of a message
      refine ⟨fun hno => absurd ⟨hp, hi⟩ (hno e'), ?_⟩
      rintro e'' ⟨hp', -⟩
      rw [hp] at hp'
      cases hp'
      exact ⟨hkept time hstore, fun ht => hm ht.1, hrefused.mpr hack, hf⟩
  | taken he e' hp hi hf hm hack time hstore =>
      refine ⟨fun _ => ⟨⟨fun _ => ⟨hm, hack⟩, fun _ => hkept time hstore⟩, ?_⟩, ?_⟩
      · rintro (hr | hfail | hmarked)
        · exact absurd hack (hrefused.mp hr)
        · exact absurd hf hfail
        · rw [he] at hmarked
          cases hmarked
      · rintro e'' ⟨hp', hi'⟩
        rw [hp] at hp'
        cases hp'
        exact absurd hi' hi

section Books

open Rehearsal

/-- A command of the stock for a request with a response. -/
def stockRequest (e : Exchange) : Command :=
  { variant := .requestResponse false, role := some .receiver, scope := some .request
    exchange := some e, handler := some "stock" }

/-- An order of a book that is sold out is not kept. -/
theorem kept_iff_taken_sold_out :
    let env := environment
      (Dict.empty.insert "stock" { onMessage := some (.application "sold out" none) }) .permissive
    let x := (stockRequest bookOrder).execute env { parties := {} } .counting
    Refused x.trace ∧ (∀ e', ¬ Emptied bookOrder e' x.trace) ∧ ¬ Taken x.trace ∧
      x.bus.store = ∅ := by
  intro env x
  have hpolicies : callsOf [.policy] x.trace =
      [.policy bookOrder .receiver .request ⟨bookOrder, none⟩] := rfl
  have hrefused : Refused x.trace := ⟨bookOrder, _, none, List.mem_singleton_self _⟩
  have hno : ∀ e', ¬ Emptied bookOrder e' x.trace := by
    rintro e' ⟨hp, hi⟩
    rw [hpolicies] at hp
    cases hp
    cases hi
  obtain ⟨hkept, hsame⟩ := (kept_iff_taken env rfl rfl (fun _ _ => rfl) { parties := {} } .counting
    rfl).1 hno
  have hstore : x.bus.store = ∅ := hsame (.inl hrefused)
  refine ⟨hrefused, hno, fun ht => ?_, hstore⟩
  have hcontains := hkept.mpr ht
  rw [hstore] at hcontains
  cases hcontains

/-- An order without a book is refused, and kept nevertheless. -/
theorem bare_order_kept :
    let bus : Bus Channel := { parties := {} }
    let x := (stockRequest bareOrder).execute (environment ∅ .permissive) bus .counting
    bus.store.contains bareOrder.messageId = false ∧ Refused x.trace ∧
      x.command.failure = some (noMessage bareOrder .request) ∧
      x.bus.store.contains bareOrder.messageId = true :=
  ⟨rfl, ⟨bareOrder, _, none, List.mem_singleton_self _⟩, rfl, rfl⟩

end Books

end ServiceBus.Command
