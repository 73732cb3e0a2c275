import ServiceBus.Proofs.Failover.Trials

set_option autoImplicit false

/-! # Who is contacted in a call with several candidates

A call is watched by having each candidate write down what it is asked (`Controller.watched`).
This changes nothing about the call (`invoke_watched`), and the log of the contacts follows a
simple course (`Course`): a candidate is asked for an exchange, which is sent to it, and only when
that fails is it the next one's turn (`course_tryFrom`, by induction on the rounds of the call).

From the course it can be read off that the candidates are contacted in the order of their list
and once each, that nobody is contacted after an answer, and that what a candidate gets to see of
the call does not depend on the candidates before it (`invoke_contacts`). -/

namespace ServiceBus.Failover

/-- A contact with the candidate that has an index in the list. -/
inductive Contact where
  /-- The candidate was asked for an exchange. -/
  | asked (index : Nat) (o : Operation) (context : CallContext) (id : Uuid)
      (made : Except BusError Exchange)
  /-- An exchange was sent to the candidate. -/
  | sent (index : Nat) (a : Attempt)

/-- What a candidate is contacted for. -/
inductive Stage where
  | asking
  | sending
  deriving DecidableEq

namespace Contact

/-- Whom the contact is with, and what for. -/
def stage : Contact → Nat × Stage
  | .asked index _ _ _ _ => (index, .asking)
  | .sent index _ => (index, .sending)

/-- Whether the contact settles the call: there is no exchange, or the candidate has answered. -/
def settles : Contact → Bool
  | .asked _ _ _ _ (.error _) => true
  | .asked _ _ _ _ (.ok _) => false
  | .sent _ a => a.failure?.isNone

end Contact

/-- The contacts with as many candidates, from an index on, if no contact settles the call. -/
def schedule (index count : Nat) : List (Nat × Stage) :=
  (List.range' index count).flatMap fun i => [(i, .asking), (i, .sending)]

theorem schedule_succ (index count : Nat) :
    schedule index (count + 1) =
      (index, .asking) :: (index, .sending) :: schedule (index + 1) count := by
  rw [schedule, List.range'_succ]
  rfl

theorem le_of_mem_schedule {index count : Nat} {stage : Nat × Stage}
    (h : stage ∈ schedule index count) : index ≤ stage.1 := by
  obtain ⟨i, hi, hstage⟩ := List.mem_flatMap.mp h
  have hle := (List.mem_range'_1.mp hi).1
  rcases List.mem_cons.mp hstage with rfl | hstage
  · exact hle
  · rw [List.mem_singleton.mp hstage]
    exact hle

/-- Nobody is contacted twice for the same thing. -/
theorem nodup_schedule (index count : Nat) : (schedule index count).Nodup := by
  induction count generalizing index with
  | zero => exact List.nodup_nil
  | succ count ih =>
      have hlater : ∀ stage, (index, stage) ∉ schedule (index + 1) count := fun stage hmem =>
        Nat.not_succ_le_self index (le_of_mem_schedule hmem)
      rw [schedule_succ, List.nodup_cons, List.nodup_cons]
      refine ⟨?_, hlater _, ih (index + 1)⟩
      rw [List.mem_cons]
      rintro (h | h)
      · cases h
      · exact hlater _ h

variable {σ α : Type}

/-! ## Calls that are watched -/

/-- The candidate with an index, writing down its contacts. -/
def Candidate.watched (index : Nat) (candidate : Candidate σ) : Candidate (σ × List Contact) where
  endpoint := candidate.endpoint
  create o context id s :=
    let (made, parties) := candidate.create o context id s.1
    (made, parties, s.2 ++ [.asked index o context id made])
  send e limit s :=
    let (answer, parties) := candidate.send e limit s.1
    (answer, parties, s.2 ++ [.sent index ⟨candidate.endpoint, e, limit, answer⟩])

namespace Candidate

variable (index : Nat) (candidate : Candidate σ)

theorem create_watched (o : Operation) (context : CallContext) (id : Uuid)
    (s : σ × List Contact) :
    (candidate.watched index).create o context id s =
      ((candidate.create o context id s.1).1, (candidate.create o context id s.1).2,
        s.2 ++ [.asked index o context id (candidate.create o context id s.1).1]) := rfl

end Candidate

/-- The call under way, without the log. -/
def Run.unwatched (r : Run (σ × List Contact)) : Run σ where
  cursor := r.cursor
  supply := r.supply
  parties := r.parties.1
  attempts := r.attempts
  failures := r.failures

namespace Controller

variable (c : Controller σ) (o : Operation) (payload : Message)

/-- The controller, with candidates that write down their contacts. -/
def watched : Controller (σ × List Contact) where
  candidates := c.candidates.mapIdx Candidate.watched
  callTimeout := c.callTimeout
  policy := c.policy

theorem getElem?_watched (index : Nat) :
    c.watched.candidates[index]? = c.candidates[index]?.map (Candidate.watched index) :=
  List.getElem?_mapIdx

theorem length_watched : c.watched.candidates.length = c.candidates.length :=
  List.length_mapIdx

theorem isEmpty_watched : c.watched.candidates.isEmpty = c.candidates.isEmpty := by
  rw [Bool.eq_iff_iff, List.isEmpty_iff, List.isEmpty_iff]
  exact List.mapIdx_eq_nil_iff

/-- The context with which the candidate with an index is asked for an exchange. -/
def contextFor (supply : Supply) (index : Nat) : CallContext where
  messageId := supply.id (supply.ids + 2 * index)
  createdAt := supply.time (supply.times + index)
  agreedPolicy := c.policy

theorem contextFor_watched (supply : Supply) (index : Nat) :
    c.watched.contextFor supply index = c.contextFor supply index := rfl

/-- The identifier that the exchange of the candidate with an index is given. -/
def idFor (supply : Supply) (index : Nat) : Uuid := supply.id (supply.ids + 2 * index + 1)

/-- Where the identifiers come from when as many candidates have been asked. -/
def supplyAfter (supply : Supply) (count : Nat) : Supply :=
  { supply with ids := supply.ids + 2 * count, times := supply.times + count }

/-! ### One candidate -/

theorem advance_cases (cursor : Cursor) :
    (∃ cursor', cursor.advance = (none, cursor')) ∨ ∃ cursor' : Cursor,
      cursor.advance = (some cursor.attempts, cursor') ∧
        cursor'.attempts = cursor.attempts + 1 := by
  unfold Cursor.advance
  split
  · exact .inl ⟨_, rfl⟩
  · split
    · exact .inl ⟨_, rfl⟩
    · exact .inr ⟨_, rfl, rfl⟩

variable {c} in
theorem next_of_none {r : Run σ} {cursor : Cursor} (h : r.cursor.advance = (none, cursor)) :
    c.next o r = (.ok none, { r with cursor := cursor }) := by
  rw [Controller.next, h]

variable {c} in
theorem next_of_missing {r : Run σ} {cursor : Cursor} {index : Nat}
    (h : r.cursor.advance = (some index, cursor)) (hc : c.candidates[index]? = none) :
    c.next o r =
      (.error (.configuration
        ("Cursor index " ++ toString index ++ " outside of " ++ toString c.candidates.length ++
          " candidates")), { r with cursor := cursor }) := by
  rw [Controller.next, h]
  dsimp only
  rw [hc]

variable {c} in
/-- A candidate is asked for an exchange with the next identifiers. -/
theorem next_of_candidate {supply : Supply} {count : Nat} {r : Run σ} {cursor : Cursor}
    {index : Nat} {candidate : Candidate σ} (hs : r.supply = supplyAfter supply count)
    (h : r.cursor.advance = (some index, cursor)) (hc : c.candidates[index]? = some candidate) :
    c.next o r =
      let made := candidate.create o (c.contextFor supply count) (idFor supply count) r.parties
      (made.1.map fun e => some (e, candidate),
        { r with
          cursor := cursor
          supply := supplyAfter supply (count + 1)
          parties := made.2 }) := by
  rw [Controller.next, h]
  dsimp only
  rw [hc, hs]
  rfl

theorem attempt_watched (index : Nat) (candidate : Candidate σ) (e : Exchange)
    (r : Run (σ × List Contact)) :
    ∃ a s, c.watched.attempt (candidate.watched index) e r =
        (a, { r with
          parties := (s, r.parties.2 ++ [.sent index a])
          attempts := r.attempts ++ [a] }) ∧
      a.exchange = e ∧ a.limit = c.callTimeout :=
  ⟨_, _, rfl, rfl, rfl⟩

/-! ### The course of a call -/

/-- The contacts that a call may make from a candidate on. -/
inductive Course (supply : Supply) : Nat → List Contact → Prop where
  /-- There is nobody to contact. -/
  | halt (index : Nat) : Course supply index []
  | unmade (index : Nat) (candidate : Candidate σ) (s : σ) (e : BusError)
      (hc : c.candidates[index]? = some candidate)
      (hm : (candidate.create o (c.contextFor supply index) (idFor supply index) s).1 = .error e) :
      Course supply index
        [.asked index o (c.contextFor supply index) (idFor supply index) (.error e)]
  | answered (index : Nat) (candidate : Candidate σ) (s : σ) (e : Exchange) (a : Attempt)
      (hc : c.candidates[index]? = some candidate)
      (hm : (candidate.create o (c.contextFor supply index) (idFor supply index) s).1 = .ok e)
      (ha : a.exchange = { e with input := some payload }) (hl : a.limit = c.callTimeout)
      (hf : a.failure? = none) :
      Course supply index
        [.asked index o (c.contextFor supply index) (idFor supply index) (.ok e), .sent index a]
  | failed (index : Nat) (candidate : Candidate σ) (s : σ) (e : Exchange) (a : Attempt)
      (log : List Contact) (hc : c.candidates[index]? = some candidate)
      (hm : (candidate.create o (c.contextFor supply index) (idFor supply index) s).1 = .ok e)
      (ha : a.exchange = { e with input := some payload }) (hl : a.limit = c.callTimeout)
      (hf : a.failure? ≠ none) (hlog : Course supply (index + 1) log) :
      Course supply index
        (.asked index o (c.contextFor supply index) (idFor supply index) (.ok e) ::
          .sent index a :: log)

variable {c o payload} in
/-- After an attempt that fails, the course goes on with the next candidate. -/
theorem Course.exists_failed {supply : Supply} {index : Nat} {candidate : Candidate σ} {s : σ}
    {e : Exchange} {a : Attempt} {before log : List Contact}
    (hc : c.candidates[index]? = some candidate)
    (hm : (candidate.create o (c.contextFor supply index) (idFor supply index) s).1 = .ok e)
    (ha : a.exchange = { e with input := some payload }) (hl : a.limit = c.callTimeout)
    (hf : a.failure? ≠ none)
    (h : ∃ later, log = before ++
        [.asked index o (c.contextFor supply index) (idFor supply index) (.ok e)] ++
        [.sent index a] ++ later ∧ Course c o payload supply (index + 1) later) :
    ∃ later, log = before ++ later ∧ Course c o payload supply index later := by
  obtain ⟨later, hlog, hcourse⟩ := h
  rw [List.append_assoc _ [_] [_], List.append_assoc] at hlog
  exact ⟨_ :: _ :: later, hlog,
    .failed index candidate s e a later hc hm ha hl hf hcourse⟩

variable (decode : String → Except String α)

/-- What a call writes down is the course of its contacts. -/
theorem course_tryFrom {supply : Supply} (fuel : Nat) (r : Run (σ × List Contact))
    (hs : r.supply = supplyAfter supply r.cursor.attempts) :
    ∃ log, (c.watched.tryFrom decode o payload fuel r).2.parties.2 = r.parties.2 ++ log ∧
      Course c o payload supply r.cursor.attempts log := by
  induction fuel generalizing r with
  | zero => exact ⟨[], (List.append_nil _).symm, .halt _⟩
  | succ fuel ih =>
      rw [tryFrom]
      rcases advance_cases r.cursor with ⟨cursor, hnone⟩ | ⟨cursor, hsome, hcursor⟩
      · rw [next_of_none o hnone]
        exact ⟨[], (List.append_nil _).symm, .halt _⟩
      · cases hc : c.candidates[r.cursor.attempts]? with
        | none =>
            rw [next_of_missing o hsome (by rw [getElem?_watched, hc]; rfl)]
            exact ⟨[], (List.append_nil _).symm, .halt _⟩
        | some candidate =>
            rw [next_of_candidate o hs hsome (by rw [getElem?_watched, hc]; rfl),
              Candidate.create_watched, contextFor_watched]
            obtain ⟨made, hm⟩ : ∃ made, (candidate.create o (c.contextFor supply r.cursor.attempts)
              (idFor supply r.cursor.attempts) r.parties.1).1 = made := ⟨_, rfl⟩
            rw [hm]
            cases made with
            | error e => exact ⟨[_], rfl, .unmade _ candidate r.parties.1 e hc hm⟩
            | ok e =>
                dsimp only [Except.map]
                obtain ⟨a, s, hattempt, ha, hl⟩ := c.attempt_watched r.cursor.attempts candidate
                  { e with input := some payload } _
                rw [hattempt]
                cases hf : a.failure? with
                | none =>
                    exact ⟨[_, _], List.append_assoc _ [_] [_],
                      .answered _ candidate _ e a hc hm ha hl hf⟩
                | some failure =>
                    refine Course.exists_failed hc hm ha hl
                      (by rw [hf]; exact Option.some_ne_none failure) ?_
                    rw [← hcursor]
                    exact ih _ rfl

/-! ### Watching changes nothing -/

/-- The next candidate is the same one, and makes the same exchange. -/
theorem next_watched (r : Run (σ × List Contact)) :
    (∃ r', c.watched.next o r = (.ok none, r') ∧ c.next o r.unwatched = (.ok none, r'.unwatched)) ∨
      (∃ e r', c.watched.next o r = (.error e, r') ∧
        c.next o r.unwatched = (.error e, r'.unwatched)) ∨
      ∃ e candidate index r', c.watched.next o r = (.ok (some (e, candidate.watched index)), r') ∧
        c.next o r.unwatched = (.ok (some (e, candidate)), r'.unwatched) := by
  have hs : r.supply = supplyAfter r.supply 0 := rfl
  rcases advance_cases r.cursor with ⟨cursor, hnone⟩ | ⟨cursor, hsome, -⟩
  · exact .inl ⟨_, next_of_none o hnone, next_of_none o hnone⟩
  · cases hc : c.candidates[r.cursor.attempts]? with
    | none =>
        refine .inr (.inl ⟨_, _, next_of_missing o hsome (by rw [getElem?_watched, hc]; rfl), ?_⟩)
        rw [length_watched]
        exact next_of_missing o hsome hc
    | some candidate =>
        rw [next_of_candidate o hs hsome (by rw [getElem?_watched, hc]; rfl),
          next_of_candidate (r := r.unwatched) o hs hsome hc, Candidate.create_watched,
          contextFor_watched, show r.unwatched.parties = r.parties.1 from rfl]
        obtain ⟨made, parties⟩ :=
          candidate.create o (c.contextFor r.supply 0) (idFor r.supply 0) r.parties.1
        cases made with
        | error e => exact .inr (.inl ⟨e, _, rfl, rfl⟩)
        | ok e => exact .inr (.inr ⟨e, candidate, _, _, rfl, rfl⟩)

theorem tryFrom_watched (fuel : Nat) (r : Run (σ × List Contact)) :
    (c.watched.tryFrom decode o payload fuel r).1 =
        (c.tryFrom decode o payload fuel r.unwatched).1 ∧
      (c.watched.tryFrom decode o payload fuel r).2.unwatched =
        (c.tryFrom decode o payload fuel r.unwatched).2 := by
  induction fuel generalizing r with
  | zero => exact ⟨rfl, rfl⟩
  | succ fuel ih =>
      rw [tryFrom, tryFrom]
      rcases c.next_watched o r with
        ⟨r', hw, hn⟩ | ⟨e, r', hw, hn⟩ | ⟨e, candidate, index, r', hw, hn⟩
      · rw [hw, hn]
        exact ⟨rfl, rfl⟩
      · rw [hw, hn]
        exact ⟨rfl, rfl⟩
      · rw [hw, hn]
        dsimp only
        obtain ⟨a, hattempt⟩ : ∃ a, c.watched.attempt (candidate.watched index)
            { e with input := some payload } r' = a := ⟨_, rfl⟩
        have hunwatched : c.attempt candidate { e with input := some payload } r'.unwatched =
            (a.1, a.2.unwatched) := by
          rw [← hattempt]
          rfl
        rw [hattempt, hunwatched]
        dsimp only
        cases a.1.failure? with
        | none => exact ⟨rfl, rfl⟩
        | some failure => exact ih _

/-! ### Calls end -/

/-- A call ends on its own: after one round more than there are candidates, it asks nobody, and
more rounds change nothing. -/
theorem Remaining.tryFrom_add {rest : List (Candidate σ)} {r : Run σ} (h : c.Remaining rest r)
    (more : Nat) :
    c.tryFrom decode o payload (rest.length + 1 + more) r =
      c.tryFrom decode o payload (rest.length + 1) r := by
  induction rest generalizing r with
  | nil =>
      rw [List.length_nil, Nat.add_right_comm, tryFrom, tryFrom, next_of_none o h.advance_nil]
  | cons candidate rest ih =>
      rw [List.length_cons, Nat.add_right_comm, tryFrom, tryFrom,
        next_of_candidate o (show r.supply = supplyAfter r.supply 0 from rfl) h.advance_cons
          h.getElem?]
      obtain ⟨made, parties⟩ :=
        candidate.create o (c.contextFor r.supply 0) (idFor r.supply 0) r.parties
      cases made with
      | error e => rfl
      | ok e =>
          dsimp only [Except.map, attempt]
          split
          · rfl
          · exact ih (h.next rfl)

/-! ### Contacts -/

variable {c o payload} {supply : Supply} {index : Nat} {log : List Contact}

/-- The schedule from a candidate on begins with that candidate. -/
theorem schedule_of_candidate {candidate : Candidate σ}
    (hc : c.candidates[index]? = some candidate) :
    schedule index (c.candidates.length - index) =
      (index, .asking) :: (index, .sending) ::
        schedule (index + 1) (c.candidates.length - (index + 1)) := by
  have hlt : index < c.candidates.length := (List.getElem?_eq_some_iff.mp hc).1
  rw [← schedule_succ, Nat.sub_add_eq, Nat.sub_add_cancel (Nat.sub_pos_of_lt hlt)]

/-- The candidates are contacted in the order of the list. -/
theorem Course.stages (h : Course c o payload supply index log) :
    log.map Contact.stage <+: schedule index (c.candidates.length - index) := by
  induction h with
  | halt index => exact List.nil_prefix
  | unmade index candidate s e hc hm =>
      rw [schedule_of_candidate hc]
      exact ⟨_, rfl⟩
  | answered index candidate s e a hc hm ha hl hf =>
      rw [schedule_of_candidate hc]
      exact ⟨_, rfl⟩
  | failed index candidate s e a log hc hm ha hl hf hlog ih =>
      rw [schedule_of_candidate hc]
      exact List.cons_prefix_cons.mpr ⟨rfl, List.cons_prefix_cons.mpr ⟨rfl, ih⟩⟩

/-- After a contact that settles the call there is no other. -/
theorem Course.unsettled (h : Course c o payload supply index log) :
    ∀ contact ∈ log.dropLast, contact.settles = false := by
  induction h with
  | halt index => exact List.forall_mem_nil _
  | unmade index candidate s e hc hm => exact List.forall_mem_nil _
  | answered index candidate s e a hc hm ha hl hf => exact List.forall_mem_singleton.mpr rfl
  | failed index candidate s e a log hc hm ha hl hf hlog ih =>
      have hsent : (Contact.sent index a).settles = false := by
        rw [Contact.settles, Option.isNone_eq_false_iff, Option.isSome_iff_ne_none]
        exact hf
      cases log with
      | nil => exact List.forall_mem_singleton.mpr rfl
      | cons contact log =>
          exact List.forall_mem_cons.mpr ⟨rfl, List.forall_mem_cons.mpr ⟨hsent, ih⟩⟩

/-- What the candidate with an index makes when it is asked. -/
def Makes (c : Controller σ) (o : Operation) (supply : Supply) (index : Nat)
    (made : Except BusError Exchange) : Prop :=
  ∃ candidate s, c.candidates[index]? = some candidate ∧
    (candidate.create o (c.contextFor supply index) (idFor supply index) s).1 = made

/-- What a contact, one of these, is about. -/
def Faithful (c : Controller σ) (o : Operation) (payload : Message) (supply : Supply)
    (log : List Contact) : Contact → Prop
  | .asked index o' context id made =>
      o' = o ∧ context = c.contextFor supply index ∧ id = idFor supply index ∧
        c.Makes o supply index made
  | .sent index a =>
      a.limit = c.callTimeout ∧
        ∃ e, .asked index o (c.contextFor supply index) (idFor supply index) (.ok e) ∈ log ∧
          a.exchange = { e with input := some payload }

theorem Faithful.mono {log' : List Contact} {contact : Contact}
    (h : c.Faithful o payload supply log contact) (hsub : log ⊆ log') :
    c.Faithful o payload supply log' contact := by
  cases contact with
  | asked index o' context id made => exact h
  | sent index a =>
      obtain ⟨hl, e, hmem, he⟩ := h
      exact ⟨hl, e, hsub hmem, he⟩

/-- Every candidate is sent what it has made, with the request in it. -/
theorem Course.faithful (h : Course c o payload supply index log) :
    ∀ contact ∈ log, c.Faithful o payload supply log contact := by
  induction h with
  | halt index => exact List.forall_mem_nil _
  | unmade index candidate s e hc hm =>
      exact List.forall_mem_singleton.mpr ⟨rfl, rfl, rfl, candidate, s, hc, hm⟩
  | answered index candidate s e a hc hm ha hl hf =>
      exact List.forall_mem_cons.mpr ⟨⟨rfl, rfl, rfl, candidate, s, hc, hm⟩,
        List.forall_mem_singleton.mpr ⟨hl, e, List.mem_cons_self, ha⟩⟩
  | failed index candidate s e a log hc hm ha hl hf hlog ih =>
      refine List.forall_mem_cons.mpr ⟨⟨rfl, rfl, rfl, candidate, s, hc, hm⟩,
        List.forall_mem_cons.mpr ⟨⟨hl, e, List.mem_cons_self, ha⟩, fun contact hmem => ?_⟩⟩
      exact (ih contact hmem).mono fun _ h => List.mem_cons_of_mem _ (List.mem_cons_of_mem _ h)

/-- The contacts of a call are in order. -/
structure Orderly (c : Controller σ) (o : Operation) (payload : Message) (supply : Supply)
    (log : List Contact) : Prop where
  /-- The candidates are contacted in the order of the list. -/
  inOrder : log.map Contact.stage <+: schedule 0 c.candidates.length
  once : (log.map Contact.stage).Nodup
  /-- Only the last contact settles the call. -/
  unsettled : ∀ contact ∈ log.dropLast, contact.settles = false
  faithful : ∀ contact ∈ log, c.Faithful o payload supply log contact

theorem Course.orderly (h : Course c o payload supply 0 log) : c.Orderly o payload supply log where
  inOrder := h.stages
  once := (nodup_schedule 0 _).sublist h.stages.sublist
  unsettled := h.unsettled
  faithful := h.faithful

/-! ### Candidates that do not look back -/

/-- The candidates with an index make the same exchanges, whatever has happened before. -/
def MakeAlike {σ' : Type} (c : Controller σ) (c' : Controller σ') (index : Nat) : Prop :=
  ∀ candidate candidate', c.candidates[index]? = some candidate →
    c'.candidates[index]? = some candidate' →
    ∀ o context id s s', (candidate.create o context id s).1 = (candidate'.create o context id s').1

/-- Candidates that make the same exchanges are sent the same, whatever has come of the attempts
before. -/
theorem Orderly.exchange_eq {σ' : Type} {c' : Controller σ'} {log' : List Contact}
    (h : c.Orderly o payload supply log) (h' : c'.Orderly o payload supply log')
    (hp : c'.policy = c.policy) (halike : c.MakeAlike c' index) {a a' : Attempt}
    (ha : .sent index a ∈ log) (ha' : .sent index a' ∈ log') : a.exchange = a'.exchange := by
  obtain ⟨-, e, hasked, he⟩ := h.faithful _ ha
  obtain ⟨-, e', hasked', he'⟩ := h'.faithful _ ha'
  obtain ⟨-, -, -, candidate, s, hc, hm⟩ := h.faithful _ hasked
  obtain ⟨-, -, -, candidate', s', hc', hm'⟩ := h'.faithful _ hasked'
  have hcontext : c'.contextFor supply index = c.contextFor supply index := by
    rw [contextFor, contextFor, hp]
  rw [hcontext, ← halike candidate candidate' hc hc' o _ _ s s', hm] at hm'
  cases hm'
  rw [he, he']

/-! ### Calls -/

variable (c o) (request : Except String Json) (supply : Supply) (s : σ)

/-- The contacts of a call. -/
def contacts : List Contact := (c.watched.invoke decode o request supply (s, [])).2.parties.2

theorem invoke_nil (h : c.candidates = []) :
    c.invoke decode o request supply s =
      (.error (.configuration
        ("No resilience factory available for " ++ o.serviceId ++ "/" ++ o.name)),
        { cursor := c.begin, supply := supply, parties := s }) := by
  rw [invoke, h]
  rfl

/-- Nobody is contacted if there are no candidates. -/
theorem contacts_nil (h : c.candidates = []) : c.contacts o decode request supply s = [] := by
  have hwatched : c.watched.candidates = [] := by rw [watched, h, List.mapIdx_nil]
  rw [contacts, invoke_nil _ _ _ _ _ _ hwatched]

/-- A request that cannot be put into JSON ends the call before anybody is contacted. -/
theorem invoke_error (hne : c.candidates ≠ []) (complaint : String) :
    c.invoke decode o (.error complaint) supply s =
      (.error (BusError.ofSerialization complaint),
        { cursor := c.begin, supply := supply, parties := s }) :=
  if_neg (by simpa using hne)

theorem candidates_watched_ne_nil (hne : c.candidates ≠ []) : c.watched.candidates ≠ [] :=
  mt List.mapIdx_eq_nil_iff.mp hne

theorem contacts_error (hne : c.candidates ≠ []) (complaint : String) :
    c.contacts o decode (.error complaint) supply s = [] := by
  rw [contacts, invoke_error _ _ _ _ _ (c.candidates_watched_ne_nil hne)]

theorem orderly_contacts (request : Json) :
    c.Orderly o (Message.ofJson request) supply (c.contacts o decode (.ok request) supply s) := by
  by_cases hnil : c.candidates = []
  · rw [contacts_nil c o decode _ supply s hnil]
    exact (Course.halt 0).orderly
  · obtain ⟨log, hlog, hcourse⟩ := c.course_tryFrom o (Message.ofJson request) decode
      (c.watched.candidates.length + 1)
      { cursor := c.watched.begin, supply := supply, parties := (s, []) } rfl
    have hcontacts : c.contacts o decode (.ok request) supply s = log := by
      rw [contacts, invoke_ok _ _ (c.candidates_watched_ne_nil hnil)]
      exact hlog
    rw [hcontacts]
    exact hcourse.orderly

/-- Watching a call changes nothing about it. -/
theorem invoke_watched :
    (c.watched.invoke decode o request supply (s, [])).1 =
        (c.invoke decode o request supply s).1 ∧
      (c.watched.invoke decode o request supply (s, [])).2.unwatched =
        (c.invoke decode o request supply s).2 := by
  have hbegin : c.watched.begin = c.begin := by rw [begin, begin, length_watched]
  rw [invoke, invoke, isEmpty_watched, length_watched, hbegin]
  split
  · exact ⟨rfl, rfl⟩
  · cases requestMessage request with
    | error e => exact ⟨rfl, rfl⟩
    | ok payload => exact c.tryFrom_watched o payload decode _ _

/-- Who is contacted in a call. The call ends on its own, and to watch it changes nothing about
it. The candidates are contacted in the order of the list and once each, and nobody is contacted
after a candidate has made no exchange or has answered, whatever the answer says. Each of them is
asked for an exchange with the policy of the controller, and sent what it has made with the text of
the request in it; the same is sent to it in any other call with this request, whatever the
candidates before it are and do. If there are no candidates, or if the request cannot be put into
JSON, the call fails and nobody is contacted. -/
theorem invoke_contacts (request : Json) :
    let payload : Message := { body := request.render }
    let start : Run σ := { cursor := c.begin, supply := supply, parties := s }
    let contacts := c.contacts o decode (.ok request) supply s
    (∀ more, c.tryFrom decode o payload (c.candidates.length + 1 + more) start =
        c.tryFrom decode o payload (c.candidates.length + 1) start) ∧
      (∀ r, let x := c.invoke decode o r supply s
        let watched := c.watched.invoke decode o r supply (s, [])
        watched.1 = x.1 ∧ watched.2.unwatched = x.2) ∧
      c.Orderly o payload supply contacts ∧
      (∀ index a, .sent index a ∈ contacts → a.exchange.input = some payload) ∧
      (∀ (σ' : Type) (c' : Controller σ') (s' : σ') (index : Nat) (a a' : Attempt),
        c'.policy = c.policy → c.MakeAlike c' index → .sent index a ∈ contacts →
        .sent index a' ∈ c'.contacts o decode (.ok request) supply s' →
        a.exchange = a'.exchange) ∧
      (c.candidates = [] → ∀ r,
        (c.invoke decode o r supply s).1 = .error (.configuration
          ("No resilience factory available for " ++ o.serviceId ++ "/" ++ o.name)) ∧
        c.contacts o decode r supply s = []) ∧
      (c.candidates ≠ [] → ∀ complaint,
        (c.invoke decode o (.error complaint) supply s).1 =
          .error (.infrastructure ("JSON serialization error: " ++ complaint)) ∧
        c.contacts o decode (.error complaint) supply s = []) := by
  intro payload start contacts
  have horderly : c.Orderly o payload supply contacts :=
    c.orderly_contacts o decode supply s request
  refine ⟨fun more => (remaining_begin supply s).tryFrom_add c o payload decode more,
    fun r => c.invoke_watched o decode r supply s, horderly, ?_, ?_, ?_, ?_⟩
  · intro index a hsent
    obtain ⟨-, e, -, he⟩ := horderly.faithful _ hsent
    rw [he]
  · intro σ' c' s' index a a' hp halike ha ha'
    exact horderly.exchange_eq (c'.orderly_contacts o decode supply s' request) hp halike ha ha'
  · intro hnil r
    exact ⟨congrArg Prod.fst (c.invoke_nil o decode r supply s hnil),
      c.contacts_nil o decode r supply s hnil⟩
  · intro hne complaint
    exact ⟨congrArg Prod.fst (c.invoke_error o decode supply s hne complaint),
      c.contacts_error o decode supply s hne complaint⟩

end Controller

section Warehouses

open Controller Rehearsal

/-- The contacts with two warehouses, the one that is stocked last. -/
def inquiries (first : CandidateScript) : List Contact :=
  (warehouses first).contacts lookup readStock (.ok (.string "book")) .counting
    (Rehearsal.candidates [first, stocked]).2

/-- The stocked warehouse is sent the same request, with the same text, after one that is down and
after one that has spoilt its exchange. Without any warehouse, the call fails. -/
theorem invoke_contacts_spoilt :
    let down : CandidateScript :=
      { endpoint := "mem://a", outcomes := [{ failure := some (.infrastructure "down") }] }
    let spoilt : CandidateScript :=
      { endpoint := "mem://a"
        outcomes :=
          [{ change := { status := some .error, output := some (some { body := "0" }) } }] }
    let nobody : Controller Unit := { candidates := [], callTimeout := 100 }
    ∃ a a', (inquiries down)[3]? = some (.sent 1 a) ∧ (inquiries spoilt)[3]? = some (.sent 1 a') ∧
      (warehouses spoilt).policy = (warehouses down).policy ∧
      (warehouses down).MakeAlike (warehouses spoilt) 1 ∧ a.exchange = a'.exchange ∧
      a.exchange.input = some { body := "\"book\"" } ∧ nobody.candidates = [] ∧
      (nobody.invoke readStock lookup (.ok (.string "book")) .counting ()).1 =
        .error (.configuration "No resilience factory available for inventory/lookup") ∧
      (warehouses down).candidates ≠ [] ∧
      ((warehouses down).invoke readStock lookup (.error "key must be a string") .counting []).1 =
        .error (.infrastructure "JSON serialization error: key must be a string") := by
  intro down spoilt nobody
  have hdown : (inquiries down)[3]? = some (.sent 1 _) := rfl
  have hspoilt : (inquiries spoilt)[3]? = some (.sent 1 _) := rfl
  have halike : (warehouses down).MakeAlike (warehouses spoilt) 1 := by
    intro candidate candidate' hc hc' o context id s s'
    cases hc
    cases hc'
    rfl
  have hne : (warehouses down).candidates ≠ [] := List.cons_ne_nil _ _
  obtain ⟨-, -, -, hinput, hsame, -, -⟩ := invoke_contacts (warehouses down) lookup readStock
    .counting (Rehearsal.candidates [down, stocked]).2 (.string "book")
  obtain ⟨-, -, -, -, -, hnobody, -⟩ :=
    invoke_contacts nobody lookup readStock .counting () (.string "book")
  obtain ⟨-, -, -, -, -, -, hcomplaint⟩ :=
    invoke_contacts (warehouses down) lookup readStock .counting [] (.string "book")
  exact ⟨_, _, hdown, hspoilt, rfl, halike,
    hsame _ (warehouses spoilt) _ 1 _ _ rfl halike (List.mem_of_getElem? hdown)
      (List.mem_of_getElem? hspoilt),
    hinput 1 _ (List.mem_of_getElem? hdown), rfl, (hnobody rfl _).1, hne,
    (hcomplaint hne "key must be a string").1⟩

end Warehouses

end ServiceBus.Failover
