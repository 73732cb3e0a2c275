import ServiceBus.Proofs.Failover.Contacts

set_option autoImplicit false

/-! # The failures of all candidates put together

An attempt is lost when the send fails, when the transport marks the exchange as failed, and when
nothing comes back in time; each tells a failure of its own (`Lost`). A call all of whose attempts
are lost (`AllLost`) ends with one failure of the other side. It names the failure of each
candidate, in the order of the list, and has the kind that they have in common, or the generic
one (`invoke_of_allLost`). -/

namespace ServiceBus.Failover

/-! ## Lost attempts -/

/-- The failure of a candidate from which nothing has come back in time. -/
def overdue (endpoint : String) (limit : Nat) : BusError :=
  .infrastructure (endpoint ++ " did not answer within " ++ toString limit ++ "ms")

/-- Why an attempt is lost, going by what comes back under the time limit. -/
inductive Lost (endpoint : String) (limit : Nat) : Answer → BusError → Prop where
  /-- The send has failed. -/
  | refused (exchange : Exchange) (milliseconds : Nat) (e : BusError) (h : milliseconds ≤ limit) :
      Lost endpoint limit ⟨exchange, .after milliseconds (some e)⟩ e
  /-- The send has not failed, but the transport has marked the exchange as failed. -/
  | marked (exchange : Exchange) (milliseconds : Nat) (h : milliseconds ≤ limit)
      (he : exchange.isError = true) :
      Lost endpoint limit ⟨exchange, .after milliseconds none⟩ exchange.failureError
  | late (exchange : Exchange) (milliseconds : Nat) (failure : Option BusError)
      (h : limit < milliseconds) :
      Lost endpoint limit ⟨exchange, .after milliseconds failure⟩ (overdue endpoint limit)
  | hung (exchange : Exchange) : Lost endpoint limit ⟨exchange, .never⟩ (overdue endpoint limit)

theorem failure?_eq_some_iff {endpoint : String} {e : Exchange} {limit : Nat} {answer : Answer}
    {error : BusError} :
    Attempt.failure? ⟨endpoint, e, limit, answer⟩ = some error ↔
      Lost endpoint limit answer error := by
  obtain ⟨exchange, completion⟩ := answer
  constructor
  · intro h
    cases completion with
    | never =>
        cases h
        exact .hung exchange
    | after milliseconds failure =>
        by_cases hlimit : milliseconds ≤ limit
        · simp only [Attempt.failure?, Completion.within, if_pos hlimit] at h
          cases failure with
          | some failure =>
              cases h
              exact .refused exchange milliseconds error hlimit
          | none =>
              cases he : exchange.isError with
              | true =>
                  simp only [he, if_true, Option.some.injEq] at h
                  rw [← h]
                  exact .marked exchange milliseconds hlimit he
              | false => simp [he] at h
        · simp only [Attempt.failure?, Completion.within, if_neg hlimit] at h
          cases h
          exact .late exchange milliseconds failure (Nat.lt_of_not_le hlimit)
  · intro h
    cases h with
    | refused _ milliseconds _ hlimit => simp [Attempt.failure?, Completion.within, hlimit]
    | marked _ milliseconds hlimit he => simp [Attempt.failure?, Completion.within, hlimit, he]
    | late _ milliseconds failure hlimit =>
        simp [Attempt.failure?, Completion.within, Nat.not_le_of_lt hlimit, overdue]
    | hung _ => rfl

/-! ## The kind in common -/

section Kind

variable {failures : List Failure} {kind : FaultKind}

theorem commonKind_of_forall (hne : failures ≠ []) (h : ∀ f ∈ failures, f.error.faultKind = kind) :
    commonKind failures = kind := by
  obtain ⟨first, rest, rfl⟩ := List.exists_cons_of_ne_nil hne
  have hfirst : first.error.faultKind = kind := h first List.mem_cons_self
  have hall : ∀ f ∈ first :: rest, f.error.faultKind = first.error.faultKind :=
    fun f hf => (h f hf).trans hfirst.symm
  rw [commonKind, if_pos (by simpa using hall), hfirst]

theorem commonKind_of_mixed (h : ¬ ∃ kind, ∀ f ∈ failures, f.error.faultKind = kind) :
    commonKind failures = .generic := by
  cases failures with
  | nil => rfl
  | cons first rest =>
      have hall : ¬ ((first :: rest).all fun f => f.error.faultKind = first.error.faultKind) := by
        intro hall
        exact h ⟨first.error.faultKind, by simpa using hall⟩
      rw [commonKind, if_neg hall]

/-- The order of the failures makes no difference to the kind. -/
theorem commonKind_eq_of_perm {failures' : List Failure}
    (h : (failures'.map (·.error.faultKind)).Perm (failures.map (·.error.faultKind))) :
    commonKind failures' = commonKind failures := by
  -- both lists have the same kinds in them, so that they have one in common or neither has
  have hall : ∀ kind, (∀ f ∈ failures', f.error.faultKind = kind) ↔
      ∀ f ∈ failures, f.error.faultKind = kind := by
    intro kind
    have hkinds : (∀ k ∈ failures'.map (·.error.faultKind), k = kind) ↔
        ∀ k ∈ failures.map (·.error.faultKind), k = kind := by simp only [h.mem_iff]
    simpa using hkinds
  by_cases hne : failures = []
  · have hnil : failures' = [] := by simpa [hne] using h
    rw [hne, hnil]
  · have hne' : failures' ≠ [] := by
      rintro rfl
      exact hne (by simpa using h)
    by_cases hcommon : ∃ kind, ∀ f ∈ failures, f.error.faultKind = kind
    · obtain ⟨kind, hkind⟩ := hcommon
      rw [commonKind_of_forall hne hkind, commonKind_of_forall hne' ((hall kind).mpr hkind)]
    · have hcommon' : ¬ ∃ kind, ∀ f ∈ failures', f.error.faultKind = kind := by
        simpa only [hall] using hcommon
      rw [commonKind_of_mixed hcommon, commonKind_of_mixed hcommon']

end Kind

/-! ## Calls that lose all attempts -/

variable {σ α : Type}

namespace Controller

variable (c : Controller σ) (o : Operation) (payload : Message)

/-- These candidates, asked one after the other with the next identifiers, all make an exchange,
and the attempts with them are all lost, with these failures. -/
inductive AllLost : List (Candidate σ) → Supply → σ → List Failure → Prop where
  | nil (supply : Supply) (s : σ) : AllLost [] supply s []
  | cons (candidate : Candidate σ) (rest : List (Candidate σ)) (supply : Supply) (s s' s'' : σ)
      (e : Exchange) (answer : Answer) (error : BusError) (failures : List Failure)
      (hmade : candidate.create o (c.contextFor supply 0) (idFor supply 0) s = (.ok e, s'))
      (hsent : candidate.send { e with input := some payload } c.callTimeout s' = (answer, s''))
      (hlost : Lost candidate.endpoint c.callTimeout answer error)
      (hrest : AllLost rest (supplyAfter supply 1) s'' failures) :
      AllLost (candidate :: rest) supply s (⟨candidate.endpoint, error⟩ :: failures)

variable {c o payload} {candidates : List (Candidate σ)} {supply : Supply} {s : σ}
  {failures : List Failure}

/-- There is one failure for each candidate, in the order of the list. -/
theorem AllLost.endpoints (h : c.AllLost o payload candidates supply s failures) :
    failures.map (·.endpoint) = candidates.map (·.endpoint) := by
  induction h with
  | nil => rfl
  | cons candidate rest supply s s' s'' e answer error failures hmade hsent hlost hrest ih =>
      rw [List.map_cons, List.map_cons, ih]

/-! ### In terms of trials -/

section Trial

variable {candidate : Candidate σ}

theorem trial_of_lost {e : Exchange} {s' s'' : σ} {answer : Answer} {error : BusError}
    (hmade : candidate.create o (c.contextFor supply 0) (idFor supply 0) s = (.ok e, s'))
    (hsent : candidate.send { e with input := some payload } c.callTimeout s' = (answer, s''))
    (hlost : Lost candidate.endpoint c.callTimeout answer error) :
    c.trial o payload candidate supply s =
      (.failed ⟨candidate.endpoint, { e with input := some payload }, c.callTimeout, answer⟩ error,
        supplyAfter supply 1, s'') := by
  show c.trialOf payload candidate (supplyAfter supply 1)
    (candidate.create o (c.contextFor supply 0) (idFor supply 0) s) = _
  rw [hmade, trialOf, hsent]
  dsimp only
  rw [failure?_eq_some_iff.mpr hlost]

/-- A trial fails only if its attempt is lost. -/
theorem lost_of_trial (h : (c.trial o payload candidate supply s).1.isFailure = true) :
    ∃ e s' answer s'' error,
      candidate.create o (c.contextFor supply 0) (idFor supply 0) s = (.ok e, s') ∧
      candidate.send { e with input := some payload } c.callTimeout s' = (answer, s'') ∧
      Lost candidate.endpoint c.callTimeout answer error := by
  have htrial : c.trial o payload candidate supply s =
      c.trialOf payload candidate (supplyAfter supply 1)
        (candidate.create o (c.contextFor supply 0) (idFor supply 0) s) := rfl
  rw [htrial] at h
  generalize candidate.create o (c.contextFor supply 0) (idFor supply 0) s = made at h ⊢
  obtain ⟨made, s'⟩ := made
  cases made with
  | error e => cases h
  | ok e =>
      obtain ⟨answer, s'', hsent⟩ : ∃ answer s'', candidate.send
        { e with input := some payload } c.callTimeout s' = (answer, s'') := ⟨_, _, rfl⟩
      rw [trialOf, hsent] at h
      dsimp only at h
      cases hfailure : Attempt.failure? ⟨candidate.endpoint, { e with input := some payload },
        c.callTimeout, answer⟩ with
      | none =>
          rw [hfailure] at h
          cases h
      | some error =>
          exact ⟨e, s', answer, s'', error, rfl, hsent, failure?_eq_some_iff.mp hfailure⟩

end Trial

/-- All attempts are lost exactly if all trials fail. -/
theorem allLost_iff :
    c.AllLost o payload candidates supply s failures ↔
      (∀ t ∈ c.trials o payload candidates supply s, t.isFailure = true) ∧
        (c.trials o payload candidates supply s).filterMap Trial.failure? = failures := by
  constructor
  · intro h
    induction h with
    | nil => exact ⟨List.forall_mem_nil _, rfl⟩
    | cons candidate rest supply s s' s'' e answer error failures hmade hsent hlost hrest ih =>
        rw [trials, trial_of_lost hmade hsent hlost]
        refine ⟨List.forall_mem_cons.mpr ⟨rfl, ih.1⟩, ?_⟩
        dsimp only
        rw [List.filterMap_cons, ih.2]
        rfl
  · induction candidates generalizing supply s failures with
    | nil =>
        rintro ⟨-, rfl⟩
        exact .nil supply s
    | cons candidate rest ih =>
        rintro ⟨hfailed, rfl⟩
        have hfirst : (c.trial o payload candidate supply s).1.isFailure = true := by
          rw [trials] at hfailed
          generalize c.trial o payload candidate supply s = x at hfailed ⊢
          obtain ⟨t, supply, s⟩ := x
          cases t <;> exact hfailed _ List.mem_cons_self
        obtain ⟨e, s', answer, s'', error, hmade, hsent, hlost⟩ := lost_of_trial hfirst
        rw [trials, trial_of_lost hmade hsent hlost] at hfailed ⊢
        have hrest := ih ⟨fun t ht => hfailed t (List.mem_cons_of_mem _ ht), rfl⟩
        exact .cons candidate rest supply s s' s'' e answer error _ hmade hsent hlost hrest

/-- A call all of whose attempts are lost ends with their failures put together. -/
theorem AllLost.invoke {request : Json} (hne : c.candidates ≠ [])
    (h : c.AllLost o (Message.ofJson request) c.candidates supply s failures)
    (decode : String → Except String α) :
    (c.invoke decode o (.ok request) supply s).1 = .error (combine o.name failures) := by
  obtain ⟨hfailed, hfailures⟩ := allLost_iff.mp h
  have hconclusion : conclusion decode o.name
      (c.trials o (Message.ofJson request) c.candidates supply s ++ []) [] = _ :=
    conclusion_append hfailed o.name []
  rw [List.append_nil, List.nil_append, hfailures] at hconclusion
  rw [(invoke_eq o decode hne request supply s).1, hconclusion]
  rfl

/-- A call all of whose attempts are lost ends with one failure of the other side. Its message
says how many candidates there are, and lists each with its failure, in the order of the list. Its
kind is the one that all failures have, or the generic one if there is none; it is also that of any
other call with failures of the same kinds in another order. -/
theorem invoke_of_allLost {request : Json} (hne : c.candidates ≠ [])
    (h : c.AllLost o (Message.ofJson request) c.candidates supply s failures)
    (decode : String → Except String α) :
    failures.map (·.endpoint) = c.candidates.map (·.endpoint) ∧
    ∃ kind, (c.invoke decode o (.ok request) supply s).1 = .error (.remote kind
        ("All " ++ toString c.candidates.length ++ " candidate(s) failed for " ++ o.name ++ ": [" ++
          String.intercalate "; " (failures.map fun f => f.endpoint ++ ": " ++ f.error.text) ++
            "]")) ∧
      (∀ k, (∀ f ∈ failures, f.error.faultKind = k) → kind = k) ∧
      ((¬ ∃ k, ∀ f ∈ failures, f.error.faultKind = k) → kind = .generic) ∧
      ∀ {σ' α' : Type} (c' : Controller σ') (o' : Operation) (request' : Json) (supply' : Supply)
        (s' : σ') (failures' : List Failure) (decode' : String → Except String α'), c'.candidates ≠ [] →
        c'.AllLost o' (Message.ofJson request') c'.candidates supply' s' failures' →
        (failures'.map (·.error.faultKind)).Perm (failures.map (·.error.faultKind)) →
        ∃ message,
          (c'.invoke decode' o' (.ok request') supply' s').1 = .error (.remote kind message) := by
  have hendpoints := h.endpoints
  have hlength : failures.length = c.candidates.length := by
    simpa using congrArg List.length hendpoints
  have hfailures : failures ≠ [] := by
    rintro rfl
    exact hne (List.length_eq_zero_iff.mp hlength.symm)
  refine ⟨hendpoints, commonKind failures, ?_, fun k hk => commonKind_of_forall hfailures hk,
    commonKind_of_mixed, ?_⟩
  · rw [h.invoke hne, combine, hlength]
    rfl
  · intro σ' α' c' o' request' supply' s' failures' decode' hne' h' hperm
    rw [h'.invoke hne', combine, commonKind_eq_of_perm hperm]
    exact ⟨_, rfl⟩

end Controller

section Warehouses

open Controller Rehearsal

/-- Three warehouses: one that is down, one whose transport answers with a fault, and one that
never answers. -/
def lostWarehouses : List CandidateScript :=
  [{ endpoint := "mem://a", outcomes := [{ failure := some (.infrastructure "down") }] },
    { endpoint := "mem://b"
      outcomes := [{ change := { failure := some (.remoteFault "AuthorizationException: no") } }] },
    { endpoint := "mem://c", outcomes := [{ hangs := true }] }]

/-- Nobody answers, and the failures are of different kinds. -/
theorem invoke_of_allLost_warehouses :
    let c : Controller (List (List Outcome)) :=
      { candidates := (Rehearsal.candidates lostWarehouses).1, callTimeout := 100 }
    let s := (Rehearsal.candidates lostWarehouses).2
    let failures : List Failure :=
      [⟨"mem://a", .infrastructure "down"⟩,
        ⟨"mem://b", .remote .authorization "AuthorizationException: no"⟩,
        ⟨"mem://c", overdue "mem://c" 100⟩]
    c.candidates ≠ [] ∧
    c.AllLost lookup (Message.ofJson (.string "book")) c.candidates .counting s failures ∧
    (c.invoke readStock lookup (.ok (.string "book")) .counting s).1 =
      .error (.remote .generic ("All 3 candidate(s) failed for lookup: " ++
        "[mem://a: Infrastructure failure: down; " ++
        "mem://b: Remote failure (authorization): AuthorizationException: no; " ++
        "mem://c: Infrastructure failure: mem://c did not answer within 100ms]")) := by
  intro c s failures
  have hne : c.candidates ≠ [] := List.cons_ne_nil _ _
  have hlost : c.AllLost lookup (Message.ofJson (.string "book")) c.candidates .counting s
      failures := by
    refine .cons _ _ _ _ _ _ _ _ _ _ rfl rfl (.refused _ 0 _ (by decide)) ?_
    refine .cons _ _ _ _ _ _ _ _ _ _ rfl rfl (.marked _ 0 (by decide) rfl) ?_
    exact .cons _ _ _ _ _ _ _ _ _ _ rfl rfl (.hung _) (.nil _ _)
  obtain ⟨-, kind, hresult, -, hmixed, -⟩ := invoke_of_allLost hne hlost readStock
  have hkind : kind = .generic := by
    refine hmixed ?_
    rintro ⟨k, hk⟩
    have hdown : FaultKind.messaging = k := hk failures[0] (by simp [failures])
    have hfault : FaultKind.authorization = k := hk failures[1] (by simp [failures])
    cases hdown.trans hfault.symm
  rw [hkind] at hresult
  refine ⟨hne, hlost, hresult.trans ?_⟩
  congr 2
  decide +kernel

end Warehouses

end ServiceBus.Failover
