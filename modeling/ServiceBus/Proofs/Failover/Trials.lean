import ServiceBus.Json.Reader
import ServiceBus.Rehearsal

set_option autoImplicit false

/-! # How a call with several candidates ends

The candidates of a call are tried one after the other until one answers (`Controller.trials`):
neither an attempt that fails nor a candidate that makes no exchange keeps the next one from
being tried. A call follows these trials as long as the attempts fail (`tryFrom_eq`, by
induction on the candidates that remain). It ends with the first answer, or with the failures of
all candidates put together; but a candidate that makes no exchange ends it as well, although the
trials would go on (`invoke_ends`). -/

namespace ServiceBus.Failover

/-! ## Trials -/

/-- What comes of trying a candidate. -/
inductive Trial where
  /-- The candidate makes no exchange. -/
  | unmade (e : BusError)
  | failed (a : Attempt) (e : BusError)
  | answered (a : Attempt)
  deriving DecidableEq

namespace Trial

/-- Whether an exchange was sent, without success. -/
def isFailure : Trial → Bool
  | .failed _ _ => true
  | .unmade _ | .answered _ => false

def attempt? : Trial → Option Attempt
  | .unmade _ => none
  | .failed a _ | .answered a => some a

def failure? : Trial → Option Failure
  | .failed a e => some ⟨a.endpoint, e⟩
  | .unmade _ | .answered _ => none

end Trial

variable {σ α : Type}

namespace Controller

variable (c : Controller σ) (o : Operation) (payload : Message)

/-- What comes of sending an exchange to a candidate, if there is one. -/
def trialOf (candidate : Candidate σ) (supply : Supply) :
    Except BusError Exchange × σ → Trial × Supply × σ
  | (.error e, parties) => (.unmade e, supply, parties)
  | (.ok e, parties) =>
      let e := { e with input := some payload }
      let (answer, parties) := candidate.send e c.callTimeout parties
      let a : Attempt := ⟨candidate.endpoint, e, c.callTimeout, answer⟩
      match a.failure? with
      | none => (.answered a, supply, parties)
      | some failure => (.failed a failure, supply, parties)

/-- Try one candidate, and tell where the next identifiers come from and what the state of the
candidates is then. -/
def trial (candidate : Candidate σ) (supply : Supply) (parties : σ) : Trial × Supply × σ :=
  let (messageId, supply) := supply.nextId
  let (created, supply) := supply.now
  let (id, supply) := supply.nextId
  let context : CallContext :=
    { messageId := messageId, createdAt := created, agreedPolicy := c.policy }
  c.trialOf payload candidate supply (candidate.create o context id parties)

/-- Try candidates one after the other until one answers. -/
def trials : List (Candidate σ) → Supply → σ → List Trial
  | [], _, _ => []
  | candidate :: rest, supply, parties =>
      match c.trial o payload candidate supply parties with
      | (.answered a, _, _) => [.answered a]
      | (t, supply, parties) => t :: trials rest supply parties

/-! ## What a call makes of trials -/

/-- What a call ends with that goes by these trials, after these failures. -/
def conclusion (decode : String → Except String α) (operation : String) :
    List Trial → List Failure → Except BusError α
  | [], failures => .error (combine operation failures)
  | .unmade e :: _, _ => .error e
  | .failed a e :: rest, failures =>
      conclusion decode operation rest (failures ++ [⟨a.endpoint, e⟩])
  | .answered a :: _, _ =>
      readAnswer decode operation a.answer.exchange.output a.answer.exchange.fault

/-- The attempts that such a call makes. -/
def attempted : List Trial → List Attempt
  | [] => []
  | .unmade _ :: _ => []
  | .failed a _ :: rest => a :: attempted rest
  | .answered a :: _ => [a]

/-! ### One candidate -/

/-- The candidates that a call under way has still to try. -/
structure Remaining (rest : List (Candidate σ)) (r : Run σ) : Prop where
  candidates : r.cursor.candidates = c.candidates.length
  rest : c.candidates.drop r.cursor.attempts = rest
  running : r.cursor.progress.isTerminal = false

variable {c} {candidate : Candidate σ} {rest : List (Candidate σ)} {r : Run σ}

theorem Remaining.advance_nil (h : c.Remaining [] r) :
    r.cursor.advance = (none, { r.cursor with progress := .exhausted }) := by
  have hlength : c.candidates.length ≤ r.cursor.attempts := List.drop_eq_nil_iff.mp h.rest
  rw [← h.candidates] at hlength
  simp [Cursor.advance, h.running, hlength]

theorem Remaining.advance_cons (h : c.Remaining (candidate :: rest) r) :
    r.cursor.advance = (some r.cursor.attempts,
      { r.cursor with
        attempts := r.cursor.attempts + 1
        progress := .attempting r.cursor.attempts }) := by
  have hlength : ¬ c.candidates.length ≤ r.cursor.attempts := fun hle => by
    have hnil := List.drop_eq_nil_iff.mpr hle
    rw [h.rest] at hnil
    cases hnil
  rw [← h.candidates] at hlength
  simp [Cursor.advance, h.running, hlength]

theorem Remaining.getElem? (h : c.Remaining (candidate :: rest) r) :
    c.candidates[r.cursor.attempts]? = some candidate := by
  rw [← List.head?_drop, h.rest]
  rfl

/-- After a candidate that has failed, those behind it remain. -/
theorem Remaining.next (h : c.Remaining (candidate :: rest) r) {r' : Run σ}
    (hc : r'.cursor = { r.cursor with
      attempts := r.cursor.attempts + 1
      progress := .attempting r.cursor.attempts }) : c.Remaining rest r' := by
  refine ⟨?_, ?_, ?_⟩
  · rw [hc, ← h.candidates]
  · rw [hc]
    show c.candidates.drop (r.cursor.attempts + 1) = rest
    rw [← List.tail_drop, h.rest]
    rfl
  · rw [hc]
    rfl

/-- A call asks the next candidate for an exchange as a trial does. -/
theorem Remaining.next_eq (h : c.Remaining (candidate :: rest) r) :
    ∃ made supply, c.trial o payload candidate r.supply r.parties =
        c.trialOf payload candidate supply made ∧
      ∃ r', c.next o r = (made.1.map fun e => some (e, candidate), r') ∧ c.Remaining rest r' ∧
        r'.supply = supply ∧ r'.parties = made.2 ∧ r'.attempts = r.attempts ∧
        r'.failures = r.failures := by
  refine ⟨_, _, rfl, ?_⟩
  unfold Controller.next
  rw [h.advance_cons]
  dsimp only
  rw [h.getElem?]
  exact ⟨_, rfl, h.next rfl, rfl, rfl, rfl, rfl⟩

variable (c) (decode : String → Except String α)

/-- One round of a call: what it makes of the next candidate's trial. -/
inductive Round (fuel : Nat) (rest : List (Candidate σ)) (r : Run σ)
    (x : Except BusError α × Run σ) : Trial × Supply × σ → Prop where
  | unmade (e : BusError) (supply : Supply) (parties : σ) (hx : x.1 = .error e)
      (ha : x.2.attempts = r.attempts) : Round fuel rest r x (.unmade e, supply, parties)
  | answered (a : Attempt) (supply : Supply) (parties : σ)
      (hx : x.1 = readAnswer decode o.name a.answer.exchange.output a.answer.exchange.fault)
      (ha : x.2.attempts = r.attempts ++ [a]) : Round fuel rest r x (.answered a, supply, parties)
  | failed (a : Attempt) (e : BusError) (supply : Supply) (parties : σ) (r' : Run σ)
      (hx : x = c.tryFrom decode o payload fuel r') (hr : c.Remaining rest r')
      (ha : r'.attempts = r.attempts ++ [a])
      (hf : r'.failures = r.failures ++ [⟨a.endpoint, e⟩]) (hs : r'.supply = supply)
      (hp : r'.parties = parties) : Round fuel rest r x (.failed a e, supply, parties)

variable {c}

theorem Remaining.round (h : c.Remaining (candidate :: rest) r) (fuel : Nat) :
    Round c o payload decode fuel rest r (c.tryFrom decode o payload (fuel + 1) r)
      (c.trial o payload candidate r.supply r.parties) := by
  obtain ⟨⟨result, parties⟩, supply, htrial, r', hnext, hr, rfl, rfl, ha, hf⟩ :=
    h.next_eq o payload
  rw [htrial, tryFrom, hnext]
  cases result with
  | error e => exact .unmade e _ _ rfl ha
  | ok e =>
      dsimp only [Except.map, trialOf, attempt]
      generalize hattempt : (⟨candidate.endpoint, { e with input := some payload }, c.callTimeout,
        (candidate.send { e with input := some payload } c.callTimeout r'.parties).1⟩ : Attempt) = a
      rw [ha, hf]
      cases a.failure? with
      | none =>
          subst hattempt
          exact .answered _ _ _ rfl rfl
      | some failure =>
          subst hattempt
          exact .failed _ failure _ _ _ rfl ⟨hr.1, hr.2, hr.3⟩ rfl rfl rfl rfl

/-! ### All candidates -/

/-- A call goes by the trials of the candidates that remain. -/
theorem Remaining.tryFrom_eq (h : c.Remaining rest r) :
    let ts := c.trials o payload rest r.supply r.parties
    let x := c.tryFrom decode o payload (rest.length + 1) r
    x.1 = conclusion decode o.name ts r.failures ∧
      x.2.attempts = r.attempts ++ attempted ts := by
  induction rest generalizing r with
  | nil =>
      have hnext : c.next o r =
          (.ok none, { r with cursor := { r.cursor with progress := .exhausted } }) := by
        rw [Controller.next, h.advance_nil]
      simp [tryFrom, hnext, trials, conclusion, attempted]
  | cons candidate rest ih =>
      intro ts x
      -- only after an attempt that fails does the call go on, with one failure more
      have hround := h.round o payload decode (rest.length + 1)
      have hts : ts = match c.trial o payload candidate r.supply r.parties with
          | (.answered a, _, _) => [.answered a]
          | (t, supply, parties) => t :: c.trials o payload rest supply parties := rfl
      rw [hts]
      generalize c.trial o payload candidate r.supply r.parties = trial at hround
      cases hround with
      | unmade e supply parties hx ha => exact ⟨hx, ha.trans (List.append_nil _).symm⟩
      | answered a supply parties hx ha => exact ⟨hx, ha⟩
      | failed a e supply parties r' hx hr ha hf hs hp =>
          obtain ⟨hresult, hattempts⟩ := ih hr
          rw [← hx, hf, hs, hp] at hresult
          rw [← hx, ha, hs, hp] at hattempts
          exact ⟨hresult, hattempts.trans (List.append_assoc _ _ _)⟩

theorem remaining_begin (supply : Supply) (parties : σ) :
    c.Remaining c.candidates { cursor := c.begin, supply := supply, parties := parties } :=
  ⟨rfl, rfl, rfl⟩

/-- A request that has been put into JSON is tried with one candidate after the other. -/
theorem invoke_ok (hne : c.candidates ≠ []) (request : Json) (supply : Supply) (parties : σ) :
    c.invoke decode o (.ok request) supply parties =
      c.tryFrom decode o (Message.ofJson request) (c.candidates.length + 1)
        { cursor := c.begin, supply := supply, parties := parties } :=
  if_neg (by simpa using hne)

theorem invoke_eq (hne : c.candidates ≠ []) (request : Json) (supply : Supply) (parties : σ) :
    let ts := c.trials o (Message.ofJson request) c.candidates supply parties
    let x := c.invoke decode o (.ok request) supply parties
    x.1 = conclusion decode o.name ts [] ∧ x.2.attempts = attempted ts := by
  intro ts x
  have hx : x = _ := invoke_ok o decode hne request supply parties
  rw [hx]
  exact (remaining_begin supply parties).tryFrom_eq o (Message.ofJson request) decode

/-! ## How calls end -/

section Conclusion

variable {decode} {before after : List Trial} (hbefore : ∀ t ∈ before, t.isFailure = true)

include hbefore

/-- As long as the attempts fail, a call goes on with the next candidate. -/
theorem conclusion_append (operation : String) (failures : List Failure) :
    conclusion decode operation (before ++ after) failures =
      conclusion decode operation after (failures ++ before.filterMap Trial.failure?) := by
  induction before generalizing failures with
  | nil => simp
  | cons t before ih =>
      cases t with
      | unmade e => cases hbefore _ List.mem_cons_self
      | answered a => cases hbefore _ List.mem_cons_self
      | failed a e =>
          rw [List.cons_append, conclusion, ih fun t ht => hbefore t (List.mem_cons_of_mem _ ht)]
          simp [Trial.failure?]

theorem attempted_append :
    attempted (before ++ after) = before.filterMap Trial.attempt? ++ attempted after := by
  induction before with
  | nil => rfl
  | cons t before ih =>
      cases t with
      | unmade e => cases hbefore _ List.mem_cons_self
      | answered a => cases hbefore _ List.mem_cons_self
      | failed a e =>
          rw [List.cons_append, attempted, ih fun t ht => hbefore t (List.mem_cons_of_mem _ ht)]
          simp [Trial.attempt?]

end Conclusion

/-- An attempt is directed to the candidate that is tried. -/
theorem endpoint_trialOf (candidate : Candidate σ) (supply : Supply)
    (made : Except BusError Exchange × σ) {a : Attempt}
    (h : (c.trialOf payload candidate supply made).1.attempt? = some a) :
    a.endpoint = candidate.endpoint := by
  obtain ⟨result, parties⟩ := made
  cases result with
  | error e => cases h
  | ok e =>
      unfold trialOf at h
      dsimp only at h
      split at h
      · cases h
        rfl
      · cases h
        rfl

/-- When all attempts fail, every candidate has been tried, in the order of the list. -/
theorem endpoints_of_failed (rest : List (Candidate σ)) (supply : Supply) (parties : σ)
    (h : ∀ t ∈ c.trials o payload rest supply parties, t.isFailure = true) :
    ((c.trials o payload rest supply parties).filterMap Trial.attempt?).map (·.endpoint) =
      rest.map (·.endpoint) := by
  induction rest generalizing supply parties with
  | nil => rfl
  | cons candidate rest ih =>
      have hendpoint : ∀ a, (c.trial o payload candidate supply parties).1.attempt? = some a →
          a.endpoint = candidate.endpoint := fun a => endpoint_trialOf payload candidate _ _
      rw [trials] at h ⊢
      generalize c.trial o payload candidate supply parties = x at h hendpoint ⊢
      obtain ⟨t, supply, parties⟩ := x
      cases t with
      | unmade e => cases h _ List.mem_cons_self
      | answered a => cases h _ List.mem_cons_self
      | failed a e =>
          have hrest := ih supply parties fun t ht => h t (List.mem_cons_of_mem _ ht)
          simp only [List.filterMap_cons, Trial.attempt?, List.map_cons, hrest]
          rw [hendpoint a rfl]

/-- Behind the attempts that fail there is an answer, or nothing, or a candidate that makes no
exchange. -/
theorem trials_split (rest : List (Candidate σ)) (supply : Supply) (parties : σ) :
    let ts := c.trials o payload rest supply parties
    ∃ before, (∀ t ∈ before, t.isFailure = true) ∧
      ((∃ a, ts = before ++ [.answered a]) ∨ ts = before ∨
        ∃ e after, ts = before ++ .unmade e :: after) := by
  induction rest generalizing supply parties with
  | nil => exact ⟨[], List.forall_mem_nil _, .inr (.inl rfl)⟩
  | cons candidate rest ih =>
      intro ts
      have hts : ts = match c.trial o payload candidate supply parties with
          | (.answered a, _, _) => [.answered a]
          | (t, supply, parties) => t :: c.trials o payload rest supply parties := rfl
      rw [hts]
      generalize c.trial o payload candidate supply parties = x
      obtain ⟨t, supply, parties⟩ := x
      cases t with
      | unmade e => exact ⟨[], List.forall_mem_nil _, .inr (.inr ⟨e, _, rfl⟩)⟩
      | answered a => exact ⟨[], List.forall_mem_nil _, .inl ⟨a, rfl⟩⟩
      | failed a e =>
          obtain ⟨before, hbefore, hrest⟩ := ih supply parties
          refine ⟨.failed a e :: before, List.forall_mem_cons.mpr ⟨rfl, hbefore⟩, ?_⟩
          rcases hrest with ⟨b, hrest⟩ | hrest | ⟨e', after, hrest⟩
          · exact .inl ⟨b, congrArg (_ :: ·) hrest⟩
          · exact .inr (.inl (congrArg (_ :: ·) hrest))
          · exact .inr (.inr ⟨e', after, congrArg (_ :: ·) hrest⟩)

/-- The first answer ends a call, and is read. -/
theorem invoke_of_answered (hne : c.candidates ≠ []) (decode : String → Except String α)
    (request : Json) (supply : Supply) (parties : σ) {before : List Trial} {a : Attempt}
    (hts : c.trials o (Message.ofJson request) c.candidates supply parties =
      before ++ [.answered a])
    (hbefore : ∀ t ∈ before, t.isFailure = true) :
    let x := c.invoke decode o (.ok request) supply parties
    x.1 = readAnswer decode o.name a.answer.exchange.output a.answer.exchange.fault ∧
      x.2.attempts = before.filterMap Trial.attempt? ++ [a] := by
  intro x
  obtain ⟨hresult, hattempts⟩ := invoke_eq o decode hne request supply parties
  rw [hresult, hattempts, hts, conclusion_append hbefore, attempted_append hbefore]
  exact ⟨rfl, rfl⟩

/-- How a call ends. As long as the attempts fail, it goes on with the next candidate. The first
answer ends it, and is read. When there is none, every candidate has been tried, and their
failures are put together. But a candidate that makes no exchange ends the call with its failure,
even if one of those behind it would answer. A call ends in one of these three ways. -/
theorem invoke_ends (hne : c.candidates ≠ []) (decode : String → Except String α)
    (request : Json) (supply : Supply) (parties : σ) :
    let ts := c.trials o (Message.ofJson request) c.candidates supply parties
    let x := c.invoke decode o (.ok request) supply parties
    (∀ before a, ts = before ++ [.answered a] → (∀ t ∈ before, t.isFailure = true) →
      x.1 = readAnswer decode o.name a.answer.exchange.output a.answer.exchange.fault ∧
      x.2.attempts = before.filterMap Trial.attempt? ++ [a]) ∧
    ((∀ t ∈ ts, t.isFailure = true) →
      x.1 = .error (combine o.name (ts.filterMap Trial.failure?)) ∧
      x.2.attempts = ts.filterMap Trial.attempt? ∧
      x.2.attempts.map (·.endpoint) = c.candidates.map (·.endpoint)) ∧
    (∀ before e after, ts = before ++ .unmade e :: after → (∀ t ∈ before, t.isFailure = true) →
      x.1 = .error e ∧ x.2.attempts = before.filterMap Trial.attempt?) ∧
    ∃ before, (∀ t ∈ before, t.isFailure = true) ∧
      ((∃ a, ts = before ++ [.answered a]) ∨ ts = before ∨
        ∃ e after, ts = before ++ .unmade e :: after) := by
  intro ts x
  obtain ⟨hresult, hattempts⟩ :
      x.1 = conclusion decode o.name ts [] ∧ x.2.attempts = attempted ts :=
    invoke_eq o decode hne request supply parties
  refine ⟨fun before a => invoke_of_answered o hne decode request supply parties, ?_, ?_,
    trials_split o _ _ supply parties⟩
  · rw [hresult, hattempts]
    intro hfailed
    have hconclusion : conclusion decode o.name (ts ++ []) [] = _ :=
      conclusion_append hfailed o.name []
    have hall : attempted (ts ++ []) = _ := attempted_append hfailed
    rw [List.append_nil] at hconclusion hall
    rw [hconclusion, hall]
    refine ⟨rfl, List.append_nil _, ?_⟩
    rw [attempted, List.append_nil]
    exact endpoints_of_failed o _ _ supply parties hfailed
  · rw [hresult, hattempts]
    intro before e after hts hbefore
    rw [hts, conclusion_append hbefore, attempted_append hbefore]
    exact ⟨rfl, List.append_nil _⟩

end Controller

section Warehouses

open Controller Rehearsal

/-- The operation that looks up how much there is of an article. -/
def lookup : Operation := { serviceId := "inventory", name := "lookup", pattern := .inOut }

/-- A warehouse that has twelve of the article. -/
def stocked : CandidateScript :=
  { endpoint := "mem://b", outcomes := [{ change := { output := some (some { body := "12" }) } }] }

/-- Ask two warehouses, the one that is stocked last. -/
def warehouses (first : CandidateScript) : Controller (List (List Outcome)) :=
  { candidates := (Rehearsal.candidates [first, stocked]).1, callTimeout := 100 }

/-- Answers are read as JSON. What the reader says of a text that no value begins is this. -/
def readStock : String → Except String Json :=
  reader Json.parse? fun _ => "expected value at line 1 column 1"

/-- What comes of asking them. -/
def inquiry (first : CandidateScript) : Except BusError Json :=
  ((warehouses first).invoke readStock lookup (.ok (.string "book")) .counting
    (Rehearsal.candidates [first, stocked]).2).1

/-- When the first warehouse does not take the request, the second answers. -/
theorem invoke_ends_down :
    let down : CandidateScript :=
      { endpoint := "mem://a", outcomes := [{ failure := some (.infrastructure "down") }] }
    (warehouses down).candidates ≠ [] ∧ inquiry down = .ok (.int 12) := by
  intro down
  have hne : (warehouses down).candidates ≠ [] := List.cons_ne_nil _ _
  have hend := (invoke_ends lookup hne readStock (.string "book") .counting
    (Rehearsal.candidates [down, stocked]).2).1 [_] _ rfl (List.forall_mem_singleton.mpr rfl)
  exact ⟨hne, hend.1⟩

/-- When the first warehouse makes no exchange, the second is not asked, although it would
answer. -/
theorem inquiry_of_unmade :
    let broken : CandidateScript :=
      { endpoint := "mem://a", failure := some (.infrastructure "no route") }
    inquiry broken = .error (.infrastructure "no route") ∧
      ∃ a, (warehouses broken).trials lookup (Message.ofJson (.string "book"))
          (warehouses broken).candidates .counting (Rehearsal.candidates [broken, stocked]).2 =
        [.unmade (.infrastructure "no route"), .answered a] ∧
      readAnswer readStock lookup.name a.answer.exchange.output a.answer.exchange.fault =
        .ok (.int 12) :=
  ⟨rfl, _, rfl, rfl⟩

end Warehouses

end ServiceBus.Failover
