import ServiceBus.Proofs.Leg.Outgoing
import ServiceBus.Proofs.Leg.Reception

set_option autoImplicit false

/-! # What becomes of the exchange and of the store

The steps of a leg leave open by what an exchange is replaced and what is done to the store. The
moves of a leg (`Leg.Move`) tell it: the policy judges the exchange, the transport takes it and
leaves it in some form, or it is kept or let go under the identifier of its message; any number
of quiet steps stand between. Every leg is a run of moves, and its deeds follow from what it is
made of.

From the moves follows as what the policy is asked about a leg (`Leg.asked_of_moves`), and, if the
parties leave the identifiers of messages as they are, that a leg does nothing to what is kept
under the identifiers of other messages (`Leg.find?_of_moves`). -/

namespace ServiceBus

variable {σ : Type} (env : Environment σ)

/-- What a move on a leg does. -/
inductive Deed where
  /-- Nothing is done to the exchange or the store, and the policy is not asked. -/
  | quiet
  /-- The policy judges the exchange. -/
  | judge
  /-- The transport takes the exchange, and leaves it in some form. -/
  | transfer
  /-- The leg moves on to the response. -/
  | respond
  /-- The exchange is kept. -/
  | persist
  /-- The exchange is let go. -/
  | release
  deriving DecidableEq

/-- The acts that a quiet step is not of. -/
def loudActs : List Act := [.call .policy, .replace, .respond, .keep]

/-- One move on a leg. -/
inductive Leg.Move : Deed → Leg σ → Leg σ → Prop where
  | quiet {act : Act} {l l' : Leg σ} (h : Step act l l') (hact : act ∉ loudActs) : Move .quiet l l'
  | judge (l : Leg σ) : Move .judge l (Work.applyPolicy env l).2
  | transfer (l : Leg σ) : Move .transfer l (Work.sendSync env l).2
  | respond (l : Leg σ) : Move .respond l { l with scope := .response }
  | persist (l : Leg σ) : Move .persist l (Work.persist l).2
  | release (l : Leg σ) : Move .release l (Work.release l).2

/-! ## The moves of a leg -/

namespace Work

variable {α : Type} {deeds : List Deed}

/-- Work whose acts are quiet makes quiet moves. -/
theorem Does.moves {acts : List Act} {x : Work σ α} (h : Does acts x)
    (hacts : ∀ act ∈ acts, act ∉ loudActs) (hdeeds : .quiet ∈ deeds) :
    Runs (Leg.Move env) deeds x := by
  intro l
  refine Relation.ReflTransGen.mono (fun m m' hs => ?_) _ _ (h l)
  obtain ⟨act, hact, hs⟩ := hs
  exact ⟨.quiet, hdeeds, .quiet hs (hacts act hact)⟩

theorem moves_applyPolicy (h : .judge ∈ deeds) : Runs (Leg.Move env) deeds (applyPolicy env) :=
  fun l => .single (.judge l) h

theorem moves_sendSync (h : .transfer ∈ deeds) : Runs (Leg.Move env) deeds (sendSync env) :=
  fun l => .single (.transfer l) h

theorem moves_persist (h : .persist ∈ deeds) :
    Runs (Leg.Move env) deeds (persist : Work σ Unit) :=
  fun l => .single (.persist l) h

theorem moves_release (h : .release ∈ deeds) :
    Runs (Leg.Move env) deeds (release : Work σ Unit) :=
  fun l => .single (.release l) h

/-! ### Requests that leave -/

theorem moves_sendOneWay : Runs (Leg.Move env) [.quiet, .judge, .transfer] (sendOneWay env) := by
  have hend : Runs (Leg.Move env) [.quiet, .judge, .transfer] (notify env .finished) :=
    (does_notify env _).moves env (by decide) (by decide)
  unfold sendOneWay
  refine (moves_applyPolicy env (by decide)).bind fun _ => ?_
  refine ((moves_sendSync env (by decide)).bind fun _ => ?_).attempt.bind fun sent => ?_
  · exact does_ensureNotError.moves env (by decide) (by decide)
  · cases sent with
    | ok _ => exact ((does_notify env _).moves env (by decide) (by decide)).bind fun _ => hend
    | error e =>
        refine ((does_notifyFailure env e).moves env (by decide) (by decide)).bind fun _ => ?_
        exact hend.bind fun _ => .fail e

theorem moves_sendRequest :
    Runs (Leg.Move env) [.quiet, .judge, .persist, .release] (sendRequest env) := by
  unfold sendRequest
  refine (moves_applyPolicy env (by decide)).bind fun _ => ?_
  refine (moves_persist env (by decide)).bind fun _ => ?_
  refine ((does_send env).moves env (by decide) (by decide)).attempt.bind fun sent => ?_
  cases sent with
  | error e => exact (moves_release env (by decide)).bind fun _ => .fail e
  | ok _ =>
      refine ((does_notify env _).moves env (by decide) (by decide)).bind fun _ => ?_
      exact (does_notify env _).moves env (by decide) (by decide)

/-! ### Responses that come in -/

theorem moves_takeMessage (sync : Bool) (message : Message) :
    Runs (Leg.Move env) [.quiet, .judge] (takeMessage env sync message) := by
  have hconclude : ∀ remote, Runs (Leg.Move env) [.quiet, .judge]
      (concludeResponse env sync remote message) :=
    fun remote => (does_concludeResponse env sync remote message).moves env (by decide) (by decide)
  unfold takeMessage
  cases BusError.ofFault? message.body with
  | some remote => exact hconclude (some remote)
  | none =>
      refine (moves_applyPolicy env (by decide)).attempt.bind fun judged => ?_
      cases judged with
      | error violation =>
          exact (does_failResponse env sync violation).moves env (by decide) (by decide)
      | ok _ => exact hconclude none

/-- Once a response has been let go, nothing more is done to the store. -/
theorem moves_openAnswer (sync : Bool) :
    Runs (Leg.Move env) [.quiet, .judge]
      (openAnswer (failResponse env sync) (takeMessage env sync)) := by
  unfold openAnswer
  refine Runs.exchange.bind fun e => ?_
  split
  · refine Runs.exchange.bind fun e => ?_
    exact (does_failResponse env sync _).moves env (by decide) (by decide)
  · refine (does_inboundMessage.moves env (by decide) (by decide)).bind fun message => ?_
    exact moves_takeMessage env sync message

theorem moves_takeResponse (sync : Bool) (hdeeds : [.quiet, .judge] ⊆ deeds)
    (hrelease : sync = false → .release ∈ deeds) :
    Runs (Leg.Move env) deeds (takeResponse env sync) := by
  have hopen := (moves_openAnswer env sync).mono hdeeds
  cases sync with
  | true => exact (Runs.pure ()).bind fun _ => hopen
  | false => exact (moves_release env (hrelease rfl)).bind fun _ => hopen

theorem moves_callAndWait :
    Runs (Leg.Move env) [.quiet, .judge, .transfer, .respond] (callAndWait env) := by
  unfold callAndWait
  refine (moves_applyPolicy env (by decide)).bind fun _ => ?_
  refine (moves_sendSync env (by decide)).bind fun _ => ?_
  refine ((does_notify env _).moves env (by decide) (by decide)).bind fun _ => ?_
  refine Runs.bind (fun l => .single (.respond l) (by decide)) fun _ => ?_
  exact moves_takeResponse env true (by decide) (by decide)

/-! ### Responses that leave -/

theorem moves_sendResponse :
    Runs (Leg.Move env) [.quiet, .judge, .transfer] (sendResponse env) := by
  -- the policy is asked or not, and then the same is done
  have hrest : ∀ _ : Unit, Runs (Leg.Move env) [.quiet, .judge, .transfer] (do
      sendSync env
      ensureNotError
      notify env .netOutPost
      notify env .finished) := by
    intro _
    refine (moves_sendSync env (by decide)).bind fun _ => ?_
    refine (does_ensureNotError.moves env (by decide) (by decide)).bind fun _ => ?_
    refine ((does_notify env _).moves env (by decide) (by decide)).bind fun _ => ?_
    exact (does_notify env _).moves env (by decide) (by decide)
  unfold sendResponse
  refine Runs.exchange.bind fun e => ?_
  split
  · exact hrest ()
  · exact (moves_applyPolicy env (by decide)).bind hrest

/-! ### Requests that come in -/

/-- The deeds of a receiver's request. -/
def requestDeeds : Variant → List Deed
  | .oneWay | .callback => [.quiet, .judge]
  | .requestResponse _ => [.quiet, .judge, .persist, .release]

theorem quiet_mem_requestDeeds (variant : Variant) : .quiet ∈ requestDeeds variant := by
  cases variant <;> exact List.mem_cons_self

theorem judge_mem_requestDeeds (variant : Variant) : .judge ∈ requestDeeds variant := by
  cases variant <;> exact List.mem_cons_of_mem _ List.mem_cons_self

theorem moves_turnAway (failure : BusError) (h : .quiet ∈ deeds) :
    Runs (Leg.Move env) deeds (turnAway env failure) :=
  (does_turnAway env failure).moves env (by decide) h

theorem moves_arrive (variant : Variant) :
    Runs (Leg.Move env) (requestDeeds variant) (arrive env variant) := by
  have hnotice :=
    (does_notify env .netInPost).moves env (by decide) (quiet_mem_requestDeeds variant)
  cases variant with
  | oneWay => exact hnotice
  | callback => exact hnotice
  | requestResponse sync =>
      exact (moves_persist env (by simp [requestDeeds])).bind fun _ => hnotice

theorem moves_rejectRequest (violation : BusError) (variant : Variant) :
    Runs (Leg.Move env) (requestDeeds variant) (rejectRequest env violation variant) := by
  have hquiet := quiet_mem_requestDeeds variant
  cases variant with
  | oneWay => exact moves_turnAway env violation hquiet
  | callback => exact moves_turnAway env violation hquiet
  | requestResponse sync =>
      refine ((does_notifyFailure env violation).moves env (by decide) hquiet).bind fun _ => ?_
      refine ((does_deliverError env violation).moves env (by decide) hquiet).attempt.bind
        fun told => ?_
      refine (moves_release env (by simp [requestDeeds])).bind fun _ => ?_
      exact ((does_refuse env _).moves env (by decide) hquiet).bind fun _ => .fail violation

theorem moves_acceptRequest (variant : Variant) :
    Runs (Leg.Move env) (requestDeeds variant) (acceptRequest env variant) := by
  have hquiet := quiet_mem_requestDeeds variant
  have hack := (does_acknowledge env).moves env (by decide) hquiet
  have hend := (does_notify env .finished).moves env (by decide) hquiet
  have hinbound : Runs (Leg.Move env) (requestDeeds variant) inboundMessage :=
    does_inboundMessage.moves env (by decide) hquiet
  have hdeliver : ∀ message, Runs (Leg.Move env) (requestDeeds variant)
      (deliverMessage env message) :=
    fun message => (does_deliverMessage env message).moves env (by decide) hquiet
  cases variant with
  | oneWay =>
      refine hinbound.bind fun message => hack.bind fun _ => ?_
      exact (hdeliver message).bind fun _ => hend
  | callback =>
      exact hack.bind fun _ => (does_deliverOrSendFault env).moves env (by decide) hquiet
  | requestResponse sync =>
      refine hinbound.bind fun message => (hdeliver message).attempt.bind fun taken => ?_
      cases taken with
      | error failure =>
          exact (moves_release env (by simp [requestDeeds])).bind fun _ => .fail failure
      | ok _ => exact hack.bind fun _ => hend

theorem moves_incomingRequest (variant : Variant) :
    Runs (Leg.Move env) (requestDeeds variant) (incomingRequest env variant) := by
  intro l
  cases he : l.exchange.isError with
  | true =>
      rw [incomingRequest_of_isError env variant he]
      exact moves_turnAway env _ (quiet_mem_requestDeeds variant) l
  | false =>
      have harrive := moves_arrive env variant l
      have hjudge := moves_applyPolicy env (judge_mem_requestDeeds variant) (arrive env variant l).2
      rw [incomingRequest_of_active env variant he]
      cases (l.rulingOnArrival env variant).violation with
      | some violation =>
          exact (harrive.trans hjudge).trans (moves_rejectRequest env _ variant _)
      | none => exact (harrive.trans hjudge).trans (moves_acceptRequest env variant _)

end Work

/-! ## What a move leaves alone -/

/-- The parties leave the identifiers of messages as they are. -/
structure Parties.KeepMessageIds (p : Parties σ) : Prop where
  enforce (e : Exchange) (role : Role) (agreed : Option AgreedPolicy) (scope : Scope) (s : σ) :
    (p.enforce e role agreed scope s).1.exchange.messageId = e.messageId
  sendSync (e : Exchange) (limit : Nat) (s : σ) :
    (p.sendSync e limit s).1.exchange.messageId = e.messageId

namespace Leg

variable {env} {deed : Deed} {deeds : List Deed} {l l' : Leg σ}

/-- The leg has this role and this scope, and the policy has been asked about it as such. -/
structure AskedAs (r : Role) (s : Scope) (l : Leg σ) : Prop where
  role : l.role = r
  scope : l.scope = s
  asked : ∀ e r' s' ruling, .policy e r' s' ruling ∈ callsOf [.policy] l.trace → r' = r ∧ s' = s

theorem AskedAs.of_steps {acts : List Act} {role : Role} {scope : Scope} (h : l.AskedAs role scope)
    (hs : Steps acts l l') (hp : .call .policy ∉ acts) (hr : .respond ∉ acts) :
    l'.AskedAs role scope := by
  refine ⟨hs.role.trans h.role, (hs.scope hr).trans h.scope, ?_⟩
  rw [hs.callsOf (by simpa using hp)]
  exact h.asked

/-- Unless the leg moves on to the response, the policy is asked about it as what it began as. -/
theorem Move.askedAs (h : Move env deed l l') (hd : deed ≠ .respond) {role : Role} {scope : Scope}
    (hl : l.AskedAs role scope) : l'.AskedAs role scope := by
  cases h with
  | quiet hs hact =>
      obtain ⟨hrun, hp⟩ := hs.quiet_run hact (.call .policy) (by decide)
      exact hl.of_steps hrun hp (hs.quiet_run hact .respond (by decide)).2
  | judge =>
      have hs := Work.does_applyPolicy env l
      refine ⟨hs.role.trans hl.role, (hs.scope (by decide)).trans hl.scope, ?_⟩
      rw [Work.policies_applyPolicy, hl.role, hl.scope]
      intro e r s ruling hmem
      rcases List.mem_append.mp hmem with hbefore | hnow
      · exact hl.asked e r s ruling hbefore
      · cases List.mem_singleton.mp hnow
        exact ⟨rfl, rfl⟩
  | transfer => exact hl.of_steps (Work.does_sendSync env l) (by decide) (by decide)
  | respond => exact absurd rfl hd
  | persist => exact hl.of_steps (Work.does_persist l) (by decide) (by decide)
  | release => exact hl.of_steps (Work.does_release l) (by decide) (by decide)

theorem asked_of_moves (h : Run (Move env) deeds l l') (hd : .respond ∉ deeds) {role : Role}
    {scope : Scope} (hl : l.AskedAs role scope) : l'.AskedAs role scope :=
  h.of_step (fun _ hi _ _ hs => hs.askedAs fun hr => hd (hr ▸ hi)) hl

/-- Only keeping and letting go does something to the store. -/
theorem Move.store (h : Move env deed l l') (hp : deed ≠ .persist) (hr : deed ≠ .release) :
    l'.bus.store = l.bus.store := by
  cases h with
  | quiet hs hact =>
      obtain ⟨hrun, hk⟩ := hs.quiet_run hact .keep (by decide)
      exact hrun.store hk
  | judge => exact (Work.does_applyPolicy env l).store (by decide)
  | transfer => exact (Work.does_sendSync env l).store (by decide)
  | respond => rfl
  | persist => exact absurd rfl hp
  | release => exact absurd rfl hr

theorem store_of_moves (h : Run (Move env) deeds l l') (hp : .persist ∉ deeds)
    (hr : .release ∉ deeds) : l'.bus.store = l.bus.store :=
  h.eq_of_step (·.bus.store)
    fun _ hi _ _ hs => hs.store (fun he => hp (he ▸ hi)) (fun he => hr (he ▸ hi))

/-- What is kept has been the same at every call on the leg, and still is. -/
structure Steady (store : Store) (l : Leg σ) : Prop where
  now : l.bus.store = store
  before : ∀ entry ∈ l.trace, entry.store = store

theorem Steady.called {store : Store} (h : l.Steady store) (c : Call) (s : σ) :
    (l.called c s).Steady store := by
  refine ⟨h.now, fun entry hmem => ?_⟩
  rcases List.mem_append.mp hmem with hmem | hmem
  · exact h.before entry hmem
  · rw [List.mem_singleton.mp hmem]
    exact h.now

theorem Step.steady {act : Act} {store : Store} (h : Step act l l') (hact : act ≠ .keep)
    (hl : l.Steady store) : l'.Steady store := by
  cases h with
  | call _ c s => exact hl.called c s
  | signal _ c s => exact ⟨(hl.called c s).now, (hl.called c s).before⟩
  | keep => exact absurd rfl hact
  | _ => exact ⟨hl.now, hl.before⟩

theorem Steps.steady {acts : List Act} {store : Store} (h : Steps acts l l')
    (hacts : .keep ∉ acts) (hl : l.Steady store) : l'.Steady store :=
  Run.of_step (fun _ hact _ _ hs => hs.steady fun he => hacts (he ▸ hact)) h hl

theorem Move.steady {store : Store} (h : Move env deed l l') (hp : deed ≠ .persist)
    (hr : deed ≠ .release) (hl : l.Steady store) : l'.Steady store := by
  cases h with
  | quiet hs hact => exact hs.steady (fun he => hact (he ▸ by decide)) hl
  | judge => exact (Work.does_applyPolicy env l).steady (by decide) hl
  | transfer => exact (Work.does_sendSync env l).steady (by decide) hl
  | respond => exact ⟨hl.now, hl.before⟩
  | persist => exact absurd rfl hp
  | release => exact absurd rfl hr

theorem steady_of_moves {store : Store} (h : Run (Move env) deeds l l') (hp : .persist ∉ deeds)
    (hr : .release ∉ deeds) (hl : l.Steady store) : l'.Steady store :=
  Run.of_step
    (fun _ hi _ _ hs => hs.steady (fun he => hp (he ▸ hi)) fun he => hr (he ▸ hi)) h hl

/-- Where nothing is kept, only keeping does something. -/
theorem Move.not_contains {id : Uuid} (h : Move env deed l l') (hp : deed ≠ .persist)
    (hl : l.bus.store.contains id = false) : l'.bus.store.contains id = false := by
  have hsame : deed ≠ .release → l'.bus.store.contains id = false := fun hr => by
    rw [h.store hp hr, hl]
  cases h with
  | persist => exact absurd rfl hp
  | release => exact (Table.contains_erase _ _ _).trans (by rw [hl, Bool.and_false])
  | _ => exact hsame (by decide)

theorem not_contains_of_moves {id : Uuid} (h : Run (Move env) deeds l l') (hp : .persist ∉ deeds)
    (hl : l.bus.store.contains id = false) : l'.bus.store.contains id = false :=
  h.of_step (P := fun m => m.bus.store.contains id = false)
    (fun _ hi _ _ hs => hs.not_contains fun he => hp (he ▸ hi)) hl

/-! ## What is kept under the identifiers of other messages -/

/-- A move does nothing to what is kept under the identifiers of other messages. -/
theorem Move.find?_of_ne {id : Uuid} (h : Move env deed l l') (hne : id ≠ l.exchange.messageId) :
    l'.bus.store.find? id = l.bus.store.find? id := by
  have hsame : deed ≠ .persist → deed ≠ .release →
      l'.bus.store.find? id = l.bus.store.find? id :=
    fun hp hr => congrArg (·.find? id) (h.store hp hr)
  cases h with
  | persist => exact Table.find?_insert_of_ne _ _ hne
  | release => exact (Table.find?_erase _ _ _).trans (if_neg hne)
  | _ => exact hsame (by decide) (by decide)

section KeepMessageIds

variable (hkeep : env.parties.KeepMessageIds)

include hkeep

/-- The exchange is about the same message after a move. -/
theorem Move.messageId (h : Move env deed l l') : l'.exchange.messageId = l.exchange.messageId := by
  cases h with
  | quiet hs hact =>
      obtain ⟨hrun, hk⟩ := hs.quiet_run hact .replace (by decide)
      exact congrArg Exchange.messageId (hrun.exchange hk)
  | judge =>
      rw [Work.applyPolicy_snd]
      exact hkeep.enforce _ _ _ _ _
  | transfer =>
      rw [Work.sendSync_snd]
      exact hkeep.sendSync _ _ _
  | respond => rfl
  | persist => rfl
  | release => rfl

theorem find?_of_moves {id : Uuid} (h : Run (Move env) deeds l l')
    (hne : id ≠ l.exchange.messageId) : l'.bus.store.find? id = l.bus.store.find? id := by
  -- along the way, the exchange is about the same message
  have hinv : l'.exchange.messageId = l.exchange.messageId ∧
      l'.bus.store.find? id = l.bus.store.find? id := by
    refine h.of_step (P := fun m => m.exchange.messageId = l.exchange.messageId ∧
      m.bus.store.find? id = l.bus.store.find? id) (fun _ _ a b hs ha => ?_) ⟨rfl, rfl⟩
    exact ⟨(hs.messageId hkeep).trans ha.1, (hs.find?_of_ne (by rw [ha.1]; exact hne)).trans ha.2⟩
  exact hinv.2

end KeepMessageIds

end Leg

end ServiceBus
