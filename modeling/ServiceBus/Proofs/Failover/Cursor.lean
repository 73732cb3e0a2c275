import ServiceBus.Proofs.Failover.Contacts

set_option autoImplicit false

/-! # How far a cursor gets

A cursor is only ever advanced, or told that the candidate it has handed out has answered. What
holds of it then (`Cursor.Sound`) is kept by both moves (`Cursor.Sound.move`), so that after any
moves it has handed out the first few candidates in their order, and once it has stopped it stays
where it is (`Cursor.inOrder_run`).

A call tries its candidates in a loop that has no bound of its own (`Controller.Loop`). The bound
that a call is given is never reached (`Controller.Remaining.loop`), and whenever the loop runs out
of candidates, the cursor tells so (`Controller.cursor_of_loop`). -/

namespace ServiceBus.Failover

namespace Cursor

/-! ## Moves -/

/-- Something that is done with a cursor. -/
inductive Move where
  | advance
  | succeed
  deriving DecidableEq

/-- The candidate that a move hands out, and the cursor afterwards. -/
def move (c : Cursor) : Move → Option Nat × Cursor
  | .advance => c.advance
  | .succeed => (none, c.succeed)

/-- The candidates that a list of moves hands out, and the cursor afterwards. -/
def run : List Move → Cursor → List Nat × Cursor
  | [], c => ([], c)
  | m :: moves, c =>
      let rest := run moves (c.move m).2
      ((c.move m).1.toList ++ rest.1, rest.2)

variable {n : Nat} {c : Cursor}

theorem advance_of_terminal (h : c.progress.isTerminal = true) : c.advance = (none, c) := by
  rw [advance, if_pos h]

theorem advance_of_le (h : c.progress.isTerminal = false) (hle : c.candidates ≤ c.attempts) :
    c.advance = (none, { c with progress := .exhausted }) := by
  rw [advance, h, if_neg Bool.false_ne_true, if_pos hle]

theorem advance_of_lt (h : c.progress.isTerminal = false) (hlt : c.attempts < c.candidates) :
    c.advance = (some c.attempts,
      { c with attempts := c.attempts + 1, progress := .attempting c.attempts }) := by
  rw [advance, h, if_neg Bool.false_ne_true, if_neg (Nat.not_le.mpr hlt)]

theorem succeed_of_terminal (h : c.progress.isTerminal = true) : c.succeed = c := by
  obtain ⟨candidates, attempts, progress⟩ := c
  cases progress with
  | notStarted => cases h
  | attempting index => cases h
  | succeeded index => rfl
  | exhausted => rfl

theorem succeed_of_attempting {index : Nat} (h : c.progress = .attempting index) :
    c.succeed = { c with progress := .succeeded index } := by
  rw [succeed, h]

theorem succeed_of_notStarted (h : c.progress = .notStarted) : c.succeed = c := by
  rw [succeed, h]

/-- A cursor that has stopped is not changed by any move. -/
theorem run_of_terminal (h : c.progress.isTerminal = true) (moves : List Move) :
    run moves c = ([], c) := by
  have hmove : ∀ m, c.move m = (none, c) := by
    intro m
    cases m with
    | advance => exact advance_of_terminal h
    | succeed => exact congrArg (none, ·) (succeed_of_terminal h)
  induction moves with
  | nil => rfl
  | cons m moves ih =>
      rw [run, hmove m]
      dsimp only
      rw [ih]
      rfl

/-! ## What holds of a cursor -/

/-- The progress goes with the number of candidates that have been handed out, of `n`. -/
def Fits (n attempts : Nat) : Progress → Prop
  | .notStarted => attempts = 0
  | .attempting index | .succeeded index => attempts = index + 1
  | .exhausted => attempts = n

/-- What holds of a cursor over `n` candidates whatever is done with it. -/
structure Sound (n : Nat) (c : Cursor) : Prop where
  candidates : c.candidates = n
  bounded : c.attempts ≤ n
  fits : Fits n c.attempts c.progress

theorem sound_start (n : Nat) : Sound n { candidates := n } := ⟨rfl, Nat.zero_le n, rfl⟩

/-- What advancing a cursor comes to. -/
inductive Advanced (n : Nat) (c : Cursor) : Option Nat × Cursor → Prop where
  /-- The cursor had stopped. -/
  | idle (h : c.progress.isTerminal = true) : Advanced n c (none, c)
  /-- There are no more candidates. -/
  | stopped (h : c.attempts = n) : Advanced n c (none, { c with progress := .exhausted })
  | handed (h : c.attempts < n) :
      Advanced n c (some c.attempts,
        { c with attempts := c.attempts + 1, progress := .attempting c.attempts })

theorem Sound.advanced (h : Sound n c) : Advanced n c c.advance := by
  cases hterminal : c.progress.isTerminal with
  | true =>
      rw [advance_of_terminal hterminal]
      exact .idle hterminal
  | false =>
      rcases Nat.lt_or_eq_of_le h.bounded with hlt | heq
      · rw [advance_of_lt hterminal (h.candidates.symm ▸ hlt)]
        exact .handed hlt
      · rw [advance_of_le hterminal (Nat.le_of_eq (h.candidates.trans heq.symm))]
        exact .stopped heq

theorem Sound.advance (h : Sound n c) : Sound n c.advance.2 := by
  have hadvanced := h.advanced
  generalize c.advance = x at hadvanced ⊢
  cases hadvanced with
  | idle => exact h
  | stopped heq => exact ⟨h.candidates, h.bounded, heq⟩
  | handed hlt => exact ⟨h.candidates, hlt, rfl⟩

theorem attempts_succeed (c : Cursor) : c.succeed.attempts = c.attempts := by
  unfold Cursor.succeed
  split <;> rfl

theorem Sound.succeed (h : Sound n c) : Sound n c.succeed := by
  cases hp : c.progress with
  | notStarted => rwa [succeed_of_notStarted hp]
  | attempting index =>
      have hfits := h.fits
      rw [hp] at hfits
      rw [succeed_of_attempting hp]
      exact ⟨h.candidates, h.bounded, hfits⟩
  | succeeded index => rwa [succeed_of_terminal (by rw [hp]; rfl)]
  | exhausted => rwa [succeed_of_terminal (by rw [hp]; rfl)]

/-- A move hands out the next candidate, if it hands out any. -/
theorem Sound.move (h : Sound n c) (m : Move) :
    Sound n (c.move m).2 ∧
      List.range c.attempts ++ (c.move m).1.toList = List.range (c.move m).2.attempts := by
  cases m with
  | succeed =>
      refine ⟨h.succeed, ?_⟩
      show List.range c.attempts ++ [] = List.range c.succeed.attempts
      rw [attempts_succeed, List.append_nil]
  | advance =>
      refine ⟨h.advance, ?_⟩
      have hadvanced := h.advanced
      show List.range c.attempts ++ c.advance.1.toList = List.range c.advance.2.attempts
      generalize c.advance = x at hadvanced ⊢
      cases hadvanced with
      | idle => exact List.append_nil _
      | stopped => exact List.append_nil _
      | handed => exact List.range_succ.symm

/-- So do many moves, one after the other. -/
theorem Sound.run (h : Sound n c) (moves : List Move) :
    Sound n (run moves c).2 ∧
      List.range c.attempts ++ (run moves c).1 = List.range (run moves c).2.attempts := by
  induction moves generalizing c with
  | nil => exact ⟨h, List.append_nil _⟩
  | cons m moves ih =>
      obtain ⟨hmove, hhanded⟩ := h.move m
      obtain ⟨hrest, hlater⟩ := ih hmove
      refine ⟨hrest, ?_⟩
      rw [← hhanded, List.append_assoc] at hlater
      exact hlater

/-- The candidates handed out so far, and how the cursor stands. -/
structure InOrder (n : Nat) (x : List Nat × Cursor) : Prop where
  /-- The candidates have been handed out in their order, and none of them twice. -/
  handed : x.1 = List.range x.2.attempts
  bounded : x.2.attempts ≤ n
  /-- The candidate that is being tried, or has answered, is the last one handed out. -/
  latest (index : Nat) (h : x.2.progress = .attempting index ∨ x.2.progress = .succeeded index) :
    x.2.attempts = index + 1
  /-- There are no more candidates when all have been handed out. -/
  exhausted (h : x.2.progress = .exhausted) : x.2.attempts = n
  /-- A cursor that has stopped hands out nothing, and stays as it is. -/
  absorbing (h : x.2.progress.isTerminal = true) (moves : List Move) :
    run moves x.2 = ([], x.2)
  /-- What a cursor hands out next is the next candidate. -/
  next (index : Nat) (c : Cursor) (h : x.2.advance = (some index, c)) :
    index = x.2.attempts ∧ index < n ∧ c.attempts = index + 1
  /-- Unless it has stopped, it hands out the next candidate or stops. -/
  going (h : x.2.progress.isTerminal = false) :
    x.2.advance.1 = some x.2.attempts ∨ x.2.advance.2.progress = .exhausted

theorem inOrder_run (n : Nat) (moves : List Move) : InOrder n (run moves { candidates := n }) := by
  obtain ⟨hsound, hhanded⟩ := (sound_start n).run moves
  have hfits := hsound.fits
  have hadvanced := hsound.advanced
  refine ⟨hhanded, hsound.bounded, ?_, ?_, run_of_terminal, ?_, ?_⟩
  · rintro index (hp | hp)
    · rw [hp] at hfits
      exact hfits
    · rw [hp] at hfits
      exact hfits
  · intro hp
    rw [hp] at hfits
    exact hfits
  · intro index c h
    rw [h] at hadvanced
    cases hadvanced with
    | handed hlt => exact ⟨rfl, hlt, rfl⟩
  · intro hterminal
    generalize (run moves { candidates := n }).2.advance = x at hadvanced
    cases hadvanced with
    | idle h =>
        rw [hterminal] at h
        cases h
    | stopped => exact .inr rfl
    | handed => exact .inl rfl

/-- The cursor is told of a success before it has handed out a candidate, and is advanced once more
when the second candidate has answered. -/
example : run [.succeed, .advance, .advance, .succeed, .advance] { candidates := 2 } =
    ([0, 1], { candidates := 2, attempts := 2, progress := .succeeded 1 }) := rfl

end Cursor

/-! ## The loop of a call -/

variable {σ α : Type}

namespace Controller

variable (c : Controller σ) (o : Operation) (payload : Message) (decode : String → Except String α)

/-- How the loop of a call is left. -/
inductive Ending where
  /-- There is no other candidate. -/
  | out
  /-- A candidate makes no exchange. -/
  | broken
  | answered
  deriving DecidableEq

/-- The loop of a call, from a state of the call on: how it is left, and what the call comes to
then. -/
inductive Loop : Run σ → Ending → Except BusError α × Run σ → Prop where
  | out (r r' : Run σ) (h : c.next o r = (.ok none, r')) :
      Loop r .out (.error (combine o.name r'.failures), r')
  | broken (r r' : Run σ) (e : BusError) (h : c.next o r = (.error e, r')) :
      Loop r .broken (.error e, r')
  | answered (r r' r'' : Run σ) (e : Exchange) (candidate : Candidate σ) (a : Attempt)
      (h : c.next o r = (.ok (some (e, candidate)), r'))
      (ha : c.attempt candidate { e with input := some payload } r' = (a, r''))
      (hf : a.failure? = none) :
      Loop r .answered
        (readAnswer decode o.name a.answer.exchange.output a.answer.exchange.fault,
          { r'' with cursor := r''.cursor.succeed })
  | again (r r' r'' : Run σ) (e : Exchange) (candidate : Candidate σ) (a : Attempt)
      (failure : BusError) (ending : Ending) (x : Except BusError α × Run σ)
      (h : c.next o r = (.ok (some (e, candidate)), r'))
      (ha : c.attempt candidate { e with input := some payload } r' = (a, r''))
      (hf : a.failure? = some failure)
      (hrest : Loop { r'' with failures := r''.failures ++ [⟨candidate.endpoint, failure⟩] }
        ending x) : Loop r ending x

variable {c o payload decode}

/-- The loop comes to one thing only. -/
theorem Loop.unique {r : Run σ} {ending ending' : Ending} {x x' : Except BusError α × Run σ}
    (h : Loop c o payload decode r ending x) (h' : Loop c o payload decode r ending' x') :
    ending' = ending ∧ x' = x := by
  induction h with
  | out r r₁ hn =>
      cases h' with
      | out _ _ hn' =>
          cases hn.symm.trans hn'
          exact ⟨rfl, rfl⟩
      | broken _ _ _ hn' => cases hn.symm.trans hn'
      | answered _ _ _ _ _ _ hn' => cases hn.symm.trans hn'
      | again _ _ _ _ _ _ _ _ _ hn' => cases hn.symm.trans hn'
  | broken r r₁ e hn =>
      cases h' with
      | out _ _ hn' => cases hn.symm.trans hn'
      | broken _ _ _ hn' =>
          cases hn.symm.trans hn'
          exact ⟨rfl, rfl⟩
      | answered _ _ _ _ _ _ hn' => cases hn.symm.trans hn'
      | again _ _ _ _ _ _ _ _ _ hn' => cases hn.symm.trans hn'
  | answered r r₁ r₂ e candidate a hn ha hf =>
      cases h' with
      | out _ _ hn' => cases hn.symm.trans hn'
      | broken _ _ _ hn' => cases hn.symm.trans hn'
      | answered _ _ _ _ _ _ hn' ha' =>
          cases hn.symm.trans hn'
          cases ha.symm.trans ha'
          exact ⟨rfl, rfl⟩
      | again _ _ _ _ _ _ _ _ _ hn' ha' hf' =>
          cases hn.symm.trans hn'
          cases ha.symm.trans ha'
          cases hf.symm.trans hf'
  | again r r₁ r₂ e candidate a failure ending x hn ha hf hrest ih =>
      cases h' with
      | out _ _ hn' => cases hn.symm.trans hn'
      | broken _ _ _ hn' => cases hn.symm.trans hn'
      | answered _ _ _ _ _ _ hn' ha' hf' =>
          cases hn.symm.trans hn'
          cases ha.symm.trans ha'
          cases hf.symm.trans hf'
      | again _ _ _ _ _ _ _ _ _ hn' ha' hf' hrest' =>
          cases hn.symm.trans hn'
          cases ha.symm.trans ha'
          cases hf.symm.trans hf'
          exact ih hrest'

/-! ### The cursor of a call -/

/-- What asking the next candidate for an exchange comes to, going by the cursor. -/
inductive Asked (r : Run σ) : Except BusError (Option (Exchange × Candidate σ)) × Run σ → Prop where
  | nobody (cursor : Cursor) (h : r.cursor.advance = (none, cursor)) :
      Asked r (.ok none, { r with cursor := cursor })
  | unmade (index : Nat) (e : BusError) (r' : Run σ)
      (h : r.cursor.advance = (some index, r'.cursor)) : Asked r (.error e, r')
  | made (index : Nat) (e : Exchange) (candidate : Candidate σ) (r' : Run σ)
      (h : r.cursor.advance = (some index, r'.cursor)) : Asked r (.ok (some (e, candidate)), r')

theorem asked_next (r : Run σ) : Asked r (c.next o r) := by
  have hs : r.supply = supplyAfter r.supply 0 := rfl
  obtain ⟨⟨index?, cursor⟩, h⟩ : ∃ x, r.cursor.advance = x := ⟨_, rfl⟩
  cases index? with
  | none =>
      rw [next_of_none o h]
      exact .nobody cursor h
  | some index =>
      cases hc : c.candidates[index]? with
      | none =>
          rw [next_of_missing o h hc]
          exact .unmade index _ _ h
      | some candidate =>
          rw [next_of_candidate o hs h hc]
          obtain ⟨made, parties⟩ :=
            candidate.create o (c.contextFor r.supply 0) (idFor r.supply 0) r.parties
          cases made with
          | error e => exact .unmade index e _ h
          | ok e => exact .made index e candidate _ h

/-- The cursor with which a call goes on when the next candidate has been asked. -/
theorem attempting_of_advance {n index : Nat} {cursor cursor' : Cursor} (hsound : cursor.Sound n)
    (h : cursor.advance = (some index, cursor')) :
    cursor'.Sound n ∧ cursor'.progress = .attempting index := by
  have hadvanced := hsound.advanced
  have hafter := hsound.advance
  rw [h] at hadvanced hafter
  cases hadvanced with
  | handed => exact ⟨hafter, rfl⟩

/-- How the cursor stands when the loop is left in some way. -/
def Ending.Marks (cursor : Cursor) : Ending → Prop
  | .out => cursor.progress = .exhausted
  | .broken => ∃ index, cursor.progress = .attempting index
  | .answered => ∃ index, cursor.progress = .succeeded index

theorem cursor_of_loop {n : Nat} {r : Run σ} {ending : Ending} {x : Except BusError α × Run σ}
    (h : Loop c o payload decode r ending x) (hsound : r.cursor.Sound n)
    (hrunning : r.cursor.progress.isTerminal = false) :
    x.2.cursor.Sound n ∧ ending.Marks x.2.cursor := by
  induction h with
  | out r r' hn =>
      have hasked := asked_next (c := c) (o := o) r
      have hadvanced := hsound.advanced
      have hafter := hsound.advance
      rw [hn] at hasked
      cases hasked with
      | nobody cursor hnone =>
          rw [hnone] at hadvanced hafter
          refine ⟨hafter, ?_⟩
          cases hadvanced with
          | idle hterminal =>
              rw [hrunning] at hterminal
              cases hterminal
          | stopped => rfl
  | broken r r' e hn =>
      have hasked := asked_next (c := c) (o := o) r
      rw [hn] at hasked
      cases hasked with
      | unmade index _ _ hadvance =>
          obtain ⟨hafter, hattempting⟩ := attempting_of_advance hsound hadvance
          exact ⟨hafter, index, hattempting⟩
  | answered r r' r'' e candidate a hn ha hf =>
      have hasked := asked_next (c := c) (o := o) r
      rw [hn] at hasked
      cases hasked with
      | made index _ _ _ hadvance =>
          obtain ⟨hafter, hattempting⟩ := attempting_of_advance hsound hadvance
          cases ha
          refine ⟨hafter.succeed, index, ?_⟩
          show r'.cursor.succeed.progress = _
          rw [Cursor.succeed_of_attempting hattempting]
  | again r r' r'' e candidate a failure ending x hn ha hf hrest ih =>
      have hasked := asked_next (c := c) (o := o) r
      rw [hn] at hasked
      cases hasked with
      | made index _ _ _ hadvance =>
          obtain ⟨hafter, hattempting⟩ := attempting_of_advance hsound hadvance
          cases ha
          refine ih hafter ?_
          show r'.cursor.progress.isTerminal = false
          rw [hattempting]
          rfl

variable (c o decode)

/-- A call is its loop: it is never kept from trying a candidate by the bound that it is given. -/
theorem Remaining.loop {rest : List (Candidate σ)} {r : Run σ} (h : c.Remaining rest r) :
    ∃ ending, Loop c o payload decode r ending (c.tryFrom decode o payload (rest.length + 1) r) := by
  induction rest generalizing r with
  | nil =>
      have hn := next_of_none (c := c) o h.advance_nil
      rw [tryFrom, hn]
      exact ⟨.out, .out _ _ hn⟩
  | cons candidate rest ih =>
      obtain ⟨made, supply, -, r', hn, hr, -, -, -, -⟩ := h.next_eq o payload
      rw [tryFrom, hn]
      obtain ⟨result, parties⟩ := made
      cases result with
      | error e => exact ⟨.broken, .broken _ _ e hn⟩
      | ok e =>
          dsimp only [Except.map]
          obtain ⟨⟨a, r''⟩, ha⟩ : ∃ x, c.attempt candidate { e with input := some payload } r' = x :=
            ⟨_, rfl⟩
          rw [ha]
          cases hf : a.failure? with
          | none => exact ⟨.answered, .answered _ _ _ _ _ _ hn ha hf⟩
          | some failure =>
              have hrest' : c.Remaining rest { r'' with
                  failures := r''.failures ++ [⟨candidate.endpoint, failure⟩] } := by
                cases ha
                exact ⟨hr.candidates, hr.rest, hr.running⟩
              obtain ⟨ending, hloop⟩ := ih hrest'
              exact ⟨ending, .again _ _ _ _ _ _ failure ending _ hn ha hf hloop⟩

/-- A cursor hands out candidates from the first one on, in their order and without leaving one
out, whatever is done with it, and never one that there is not. So a call never asks for a
candidate that there is not. A call comes to what its loop comes to, and whenever the loop runs out
of candidates, the cursor tells so, and all of them have been handed out. -/
theorem cursor_in_order (request : Json) (supply : Supply) (s : σ) :
    let start : Run σ := { cursor := c.begin, supply := supply, parties := s }
    let x := c.invoke decode o (.ok request) supply s
    (∀ n moves, Cursor.InOrder n (Cursor.run moves { candidates := n })) ∧
      (∀ moves, (∀ index ∈ (Cursor.run moves c.begin).1, index < c.candidates.length) ∧
        ∀ index cursor, (Cursor.run moves c.begin).2.advance = (some index, cursor) →
          ∃ candidate, c.candidates[index]? = some candidate) ∧
      (c.candidates ≠ [] →
        (∃ ending, Loop c o (Message.ofJson request) decode start ending x) ∧
          ∀ ending y, Loop c o (Message.ofJson request) decode start ending y →
            y = x ∧ (ending = .out → x.2.cursor.progress = .exhausted ∧
              x.2.cursor.attempts = c.candidates.length)) := by
  intro start x
  refine ⟨Cursor.inOrder_run, fun moves => ?_, fun hne => ?_⟩
  · have horder := Cursor.inOrder_run c.candidates.length moves
    refine ⟨fun index hmem => ?_, fun index cursor h => ?_⟩
    · rw [begin, horder.handed] at hmem
      exact Nat.lt_of_lt_of_le (List.mem_range.mp hmem) horder.bounded
    · obtain ⟨-, hlt, -⟩ := horder.next index cursor h
      exact ⟨c.candidates[index], List.getElem?_eq_getElem hlt⟩
  · have hx : x = c.tryFrom decode o (Message.ofJson request) (c.candidates.length + 1) start :=
      invoke_ok o decode hne request supply s
    obtain ⟨ending, hloop⟩ : ∃ ending, Loop c o (Message.ofJson request) decode start ending x := by
      rw [hx]
      exact (remaining_begin supply s).loop c o decode
    refine ⟨⟨ending, hloop⟩, fun ending' y hy => ?_⟩
    obtain ⟨rfl, rfl⟩ := hloop.unique hy
    refine ⟨rfl, ?_⟩
    rintro rfl
    obtain ⟨hsound, hexhausted⟩ := cursor_of_loop hy (Cursor.sound_start _) rfl
    have hfits := hsound.fits
    rw [show x.2.cursor.progress = .exhausted from hexhausted] at hfits
    exact ⟨hexhausted, hfits⟩

end Controller

section Warehouses

open Controller Rehearsal

/-- When the only warehouse does not take the request, the loop runs out of candidates. -/
theorem cursor_in_order_down :
    let down : CandidateScript :=
      { endpoint := "mem://a", outcomes := [{ failure := some (.infrastructure "down") }] }
    let made := Rehearsal.candidates [down]
    let c : Controller (List (List Outcome)) := { candidates := made.1, callTimeout := 100 }
    let start : Run (List (List Outcome)) :=
      { cursor := c.begin, supply := .counting, parties := made.2 }
    let x := c.invoke readStock lookup (.ok (.string "book")) .counting made.2
    c.candidates ≠ [] ∧
      Loop c lookup (Message.ofJson (.string "book")) readStock start .out x ∧
      x.2.cursor.progress = .exhausted ∧ x.2.cursor.attempts = 1 := by
  intro down made c start x
  have hne : c.candidates ≠ [] := List.cons_ne_nil _ _
  have hloop : Loop c lookup (Message.ofJson (.string "book")) readStock start .out x :=
    .again _ _ _ _ _ _ (.infrastructure "down") _ _ rfl rfl rfl (.out _ _ rfl)
  obtain ⟨-, hends⟩ := (cursor_in_order c lookup readStock (.string "book") .counting made.2).2.2 hne
  exact ⟨hne, hloop, (hends .out x hloop).2 rfl⟩

end Warehouses

end ServiceBus.Failover
