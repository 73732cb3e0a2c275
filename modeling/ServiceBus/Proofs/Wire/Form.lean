import ServiceBus.Wire.Form

set_option autoImplicit false

/-! # What it takes to read a record

A record can be read from named members when all members have names, none that the form knows is
there twice, each of them can be read, and none is missing (`readAs_eq_ok_iff`). None of this
depends on the order of the members, nor on those that the form does not know: what matters is
what is under each of its names (`under`). -/

namespace ServiceBus.Wire

variable {δ α β : Type}

/-- The label is a name. -/
def Label.IsName : Label → Prop
  | .name _ => True
  | .other _ => False

/-- What is under a name. -/
def under (name : String) (members : List (Label × δ)) : List δ :=
  members.filterMap fun m => if m.1 = .name name then some m.2 else none

theorem under_cons_self (name : String) (d : δ) (members : List (Label × δ)) :
    under name ((.name name, d) :: members) = d :: under name members := by
  simp [under]

theorem under_cons_of_ne {name : String} {m : Label × δ} (h : m.1 ≠ .name name)
    (members : List (Label × δ)) : under name (m :: members) = under name members := by
  simp [under, h]

theorem lookup_eq_under (name : String) (members : List (Label × δ)) :
    members.lookup (.name name) = (under name members).head? := by
  induction members with
  | nil => rfl
  | cons m members ih =>
      obtain ⟨n, d⟩ := m
      by_cases h : n = .name name
      · rw [h, under_cons_self, List.lookup_cons_self, List.head?_cons]
      · have hne : (Label.name name == n) = false := beq_eq_false_iff_ne.mpr (Ne.symm h)
        rw [under_cons_of_ne h, List.lookup_cons, hne, ih]

namespace Form

/-! ## Checks -/

/-- What is under a name that the form knows: once at most, something that can be read, and nothing
at all if the name has been seen. -/
def Passes (f : Form δ α) (seen : List String) (members : List (Label × δ)) : Prop :=
  ∀ name check, f.checks.lookup name = some check →
    (name ∈ seen → under name members = []) ∧ (under name members).length ≤ 1 ∧
      ∀ d ∈ under name members, check d = .ok ()

theorem passes_cons_of_unknown {f : Form δ α} {name : String} (h : f.checks.lookup name = none)
    (seen : List String) (d : δ) (members : List (Label × δ)) :
    f.Passes seen ((.name name, d) :: members) ↔ f.Passes seen members := by
  refine forall₃_congr fun n check hn => ?_
  have hne : (Label.name name, d).1 ≠ .name n := fun heq => by
    rw [← Label.name.inj heq, h] at hn
    cases hn
  rw [under_cons_of_ne hne]

theorem passes_cons_of_known {f : Form δ α} {name : String} {check : δ → Except DecodeError Unit}
    (h : f.checks.lookup name = some check) (seen : List String) (d : δ)
    (members : List (Label × δ)) :
    f.Passes seen ((.name name, d) :: members) ↔
      name ∉ seen ∧ check d = .ok () ∧ f.Passes (name :: seen) members := by
  constructor
  · intro hp
    obtain ⟨hseen, hlength, hchecks⟩ := hp name check h
    rw [under_cons_self] at hseen hlength hchecks
    refine ⟨fun hmem => List.cons_ne_nil _ _ (hseen hmem), hchecks d List.mem_cons_self, ?_⟩
    intro n check' hn
    by_cases heq : n = name
    · subst heq
      have hnil : under n members = [] :=
        List.eq_nil_of_length_eq_zero (Nat.le_zero.mp (Nat.le_of_succ_le_succ hlength))
      rw [hnil]
      exact ⟨fun _ => rfl, Nat.zero_le _, List.forall_mem_nil _⟩
    · obtain ⟨hseen', hrest⟩ := hp n check' hn
      rw [under_cons_of_ne fun hname => heq (Label.name.inj hname).symm] at hseen' hrest
      exact ⟨fun hmem => hseen' ((List.mem_cons.mp hmem).resolve_left heq), hrest⟩
  · rintro ⟨hseen, hd, hp⟩ n check' hn
    obtain ⟨hseen', hlength, hchecks⟩ := hp n check' hn
    by_cases heq : n = name
    · subst heq
      rw [h] at hn
      cases hn
      rw [under_cons_self, hseen' List.mem_cons_self]
      exact ⟨fun hmem => absurd hmem hseen, Nat.le_refl 1, List.forall_mem_singleton.mpr hd⟩
    · rw [under_cons_of_ne fun hname => heq (Label.name.inj hname).symm]
      exact ⟨fun hmem => hseen' (List.mem_cons_of_mem _ hmem), hlength, hchecks⟩

/-- The checks find no error among members that all have names and pass. -/
theorem firstError_eq_ok_iff (f : Form δ α) (seen : List String)
    (members : List (Label × δ)) :
    f.firstError seen members = .ok () ↔ (∀ m ∈ members, m.1.IsName) ∧ f.Passes seen members := by
  induction members generalizing seen with
  | nil =>
      refine iff_of_true rfl ⟨List.forall_mem_nil _, fun name check _ => ?_⟩
      exact ⟨fun _ => rfl, Nat.zero_le _, List.forall_mem_nil _⟩
  | cons m members ih =>
      obtain ⟨label, d⟩ := m
      rw [List.forall_mem_cons]
      cases label with
      | other found => exact iff_of_false (fun h => nomatch h) fun h => h.1.1
      | name name =>
          rw [firstError, and_iff_right (a := (Label.name name, d).1.IsName) trivial]
          cases h : f.checks.lookup name with
          | none =>
              rw [passes_cons_of_unknown h]
              exact ih seen
          | some check =>
              rw [passes_cons_of_known h]
              dsimp only
              split
              · next hseen =>
                  exact iff_of_false (fun h => nomatch h) fun h =>
                    h.2.1 (List.contains_iff_mem.mp hseen)
              · next hseen =>
                  rw [List.contains_iff_mem] at hseen
                  cases hd : check d with
                  | error e => exact iff_of_false (fun h => nomatch h) fun h => nomatch h.2.2.1
                  | ok _ =>
                      rw [ih, and_iff_right hseen, and_iff_right rfl]

/-! ## Reading -/

variable [Document δ]

/-- A record can be read from named members if they pass the checks and nothing is missing. -/
theorem readAs_eq_ok_iff {expected fewer : String} (f : Form δ α) {d : δ}
    {members : List (Label × δ)} (hd : Document.shape d = .named members) (a : α) :
    f.readAs expected fewer d = .ok a ↔ (∀ m ∈ members, m.1.IsName) ∧ f.Passes [] members ∧
      f.named (fun name => (under name members).head?) = .ok a := by
  have hlookup : (fun name => members.lookup (.name name)) =
      fun name => (under name members).head? := funext fun name => lookup_eq_under name members
  rw [readAs, hd, ← and_assoc, ← firstError_eq_ok_iff, ← hlookup]
  dsimp only
  cases f.firstError [] members with
  | error e => exact iff_of_false (fun h => nomatch h) fun h => nomatch h.1
  | ok _ => exact (and_iff_right rfl).symm

/-! ## Forms that are put together -/

section Named

variable {γ : Type} (look : String → Option γ)

theorem named_seq_eq_ok_iff (f : Form γ (α → β)) (x : Form γ α) (b : β) :
    (f <*> x).named look = .ok b ↔
      ∃ g a, f.named look = .ok g ∧ x.named look = .ok a ∧ g a = b := by
  have happly : (f <*> x).named look = (f.andThen x).named look := rfl
  rw [happly, andThen]
  dsimp only
  cases f.named look with
  | error e => simp
  | ok g => cases x.named look <;> simp [Except.map]

theorem named_map_eq_ok_iff (g : α → β) (x : Form γ α) (b : β) :
    (g <$> x).named look = .ok b ↔ ∃ a, x.named look = .ok a ∧ g a = b := by
  show (x.named look).map g = .ok b ↔ _
  cases x.named look <;> simp [Except.map]

theorem named_required_eq_ok_iff (name : String) (read : γ → Except DecodeError α) (a : α) :
    (required name read).named look = .ok a ↔ ∃ d, look name = some d ∧ read d = .ok a := by
  rw [required, member]
  dsimp only
  cases look name <;> simp

theorem named_defaulted (name : String) (read : γ → Except DecodeError α) (absent : α) :
    (defaulted name read absent).named look = (look name).elim (.ok absent) read := by
  rw [defaulted, member]
  dsimp only
  cases look name <;> rfl

end Named

end Form

end ServiceBus.Wire
