import ServiceBus.Proofs.Wire.Form
import ServiceBus.Wire.Leaf

set_option autoImplicit false

/-! # What is under the names of an object

A form reads an object by looking at what is under each of its names (`contents`). It reads a
record from it if each of its members reads its part (`Form.Reads`), and reads the same record from
another object if each member reads the same part from what is there instead (`Form.Respects`).
Both are shown for a form by going through its members once. -/

namespace ServiceBus.Wire

/-! ## The contents of an object -/

/-- What is under a name of an object. -/
def contents (name : String) (members : List (String × Json)) : List Json :=
  members.filterMap fun m => if m.1 = name then some m.2 else none

section Contents

variable {name : String} (members members' : List (String × Json))

theorem contents_append : contents name (members ++ members') =
    contents name members ++ contents name members' :=
  List.filterMap_append

theorem contents_cons_self (v : Json) :
    contents name ((name, v) :: members) = v :: contents name members := by
  simp [contents]

theorem contents_cons_of_ne {n : String} (h : n ≠ name) (v : Json) :
    contents name ((n, v) :: members) = contents name members := by
  simp [contents, h]

theorem under_object :
    under name (members.map fun m => (.name m.1, m.2)) = contents name members := by
  rw [under, contents, List.filterMap_map]
  refine congrArg (List.filterMap · members) (funext fun m => ?_)
  simp only [Function.comp_apply, Label.name.injEq]

/-- There is at most one value under each name if no name is there twice. -/
theorem length_contents_le_one (h : (members.map Prod.fst).Nodup) :
    (contents name members).length ≤ 1 := by
  induction members with
  | nil => exact Nat.zero_le 1
  | cons m members ih =>
      obtain ⟨hnot, hnodup⟩ := List.nodup_cons.mp h
      obtain ⟨n, v⟩ := m
      by_cases hn : n = name
      · subst hn
        have hnil : contents n members = [] :=
          List.filterMap_eq_nil_iff.mpr fun m hm =>
            if_neg fun heq => hnot (List.mem_map.mpr ⟨m, hm, heq⟩)
        rw [contents_cons_self, hnil]
        exact Nat.le_refl 1
      · rw [contents_cons_of_ne members hn]
        exact ih hnodup

end Contents

namespace Form

variable {δ α β : Type} {look look' : String → Option δ} {name : String}
  {part : δ → Except DecodeError α} {absent short : Option α}

/-! ## Reading what is there -/

/-- What a member reads from what is under its name. -/
def Found (part : δ → Except DecodeError α) (absent : Option α) : Option δ → α → Prop
  | some d, a => part d = .ok a
  | none, a => absent = some a

/-- The form reads the record from what is under the names, and passes its checks. -/
structure Reads (f : Form δ α) (look : String → Option δ) (a : α) : Prop where
  named : f.named look = .ok a
  checks : ∀ c ∈ f.checks, ∀ d, look c.1 = some d → c.2 d = .ok ()

theorem reads_pure (a : α) : (pure a : Form δ α).Reads look a :=
  ⟨rfl, List.forall_mem_nil _⟩

theorem Reads.seq {f : Form δ (α → β)} {x : Form δ α} {g : α → β} {a : α} (hf : f.Reads look g)
    (hx : x.Reads look a) : (f <*> x).Reads look (g a) where
  named := (named_seq_eq_ok_iff look f x (g a)).mpr ⟨g, a, hf.named, hx.named, rfl⟩
  checks := List.forall_mem_append.mpr ⟨hf.checks, hx.checks⟩

theorem Reads.map {x : Form δ α} {a : α} (hx : x.Reads look a) (g : α → β) :
    (g <$> x).Reads look (g a) :=
  (reads_pure g).seq hx

theorem named_member_eq_ok_iff (a : α) :
    (member name part absent short).named look = .ok a ↔ Found part absent (look name) a := by
  unfold member
  dsimp only
  cases look name with
  | some d => exact Iff.rfl
  | none => cases absent <;> simp [Found]

theorem reads_member {a : α} (h : Found part absent (look name) a) :
    (member name part absent short).Reads look a where
  named := (named_member_eq_ok_iff a).mpr h
  checks := by
    refine List.forall_mem_singleton.mpr fun d hd => ?_
    have hpart : part d = .ok a := by
      rw [hd] at h
      exact h
    show (part d).map _ = .ok ()
    rw [hpart]
    rfl

/-- A member reads its part from what is there, whether it has to be there or not. -/
theorem reads_required {d : δ} {a : α} (hd : look name = some d) (h : part d = .ok a) :
    (required name part).Reads look a :=
  reads_member (hd ▸ h)

theorem reads_optional {part : δ → Except DecodeError (Option α)} {d : δ} {o : Option α}
    (hd : look name = some d) (h : part d = .ok o) : (optional name part).Reads look o :=
  reads_member (hd ▸ h)

theorem reads_defaulted {d : δ} {a default : α} (hd : look name = some d) (h : part d = .ok a) :
    (defaulted name part default).Reads look a :=
  reads_member (hd ▸ h)

/-! ## Reading something else -/

/-- Whatever is under the names, a form that reads a record from it reads the same from what is
related to it. -/
def Respects (f : Form δ α) (R : String → Option δ → Option δ → Prop) : Prop :=
  ∀ look look' a, (∀ name, R name (look name) (look' name)) → f.named look = .ok a →
    f.Reads look' a

variable {R : String → Option δ → Option δ → Prop}

theorem respects_pure (a : α) : (pure a : Form δ α).Respects R := by
  rintro look look' b - ⟨⟩
  exact reads_pure a

theorem Respects.seq {f : Form δ (α → β)} {x : Form δ α} (hf : f.Respects R)
    (hx : x.Respects R) : (f <*> x).Respects R := by
  intro look look' b hR hb
  obtain ⟨g, a, hg, ha, rfl⟩ := (named_seq_eq_ok_iff look f x b).mp hb
  exact (hf look look' g hR hg).seq (hx look look' a hR ha)

theorem Respects.map {x : Form δ α} (hx : x.Respects R) (g : α → β) : (g <$> x).Respects R :=
  (respects_pure g).seq hx

theorem respects_member
    (h : ∀ o o' a, R name o o' → Found part absent o a → Found part absent o' a) :
    (member name part absent short).Respects R := by
  intro look look' a hR ha
  exact reads_member (h _ _ a (hR name) ((named_member_eq_ok_iff a).mp ha))

/-! ## Objects -/

section Objects

variable {f : Form Json α} {members members' : List (String × Json)} {a : α}
  {expected fewer : String}

/-- The names that the form knows. -/
def names (f : Form δ α) : List String := f.checks.map Prod.fst

theorem mem_names_of_lookup {check : δ → Except DecodeError Unit} {f : Form δ α}
    (h : f.checks.lookup name = some check) : (name, check) ∈ f.checks := by
  obtain ⟨before, after, hchecks, -⟩ := List.lookup_eq_some_iff.mp h
  rw [hchecks]
  exact List.mem_append_right _ List.mem_cons_self

/-- An object is read if no name is there twice that the form knows. -/
theorem Reads.readAs (h : f.Reads (fun name => (contents name members).head?) a)
    (hone : ∀ name ∈ f.names, (contents name members).length ≤ 1) :
    f.readAs expected fewer (.object members) = .ok a := by
  refine (readAs_eq_ok_iff f rfl a).mpr ⟨fun m hm => ?_, fun name check hcheck => ?_, ?_⟩
  · obtain ⟨m', -, rfl⟩ := List.mem_map.mp hm
    exact trivial
  · have hmem := mem_names_of_lookup hcheck
    have hlength := hone name (List.mem_map_of_mem (f := Prod.fst) hmem)
    rw [under_object]
    refine ⟨(nomatch ·), hlength, fun d hd => h.checks _ hmem d ?_⟩
    -- what is there is all that is there
    match hc : contents name members, hlength with
    | [d'], _ =>
        rw [hc] at hd
        rw [List.mem_singleton.mp hd]
        rfl
    | [], _ =>
        rw [hc] at hd
        cases hd
  · simp only [under_object]
    exact h.named

theorem Reads.read (h : f.Reads (fun name => (contents name members).head?) a)
    (hone : ∀ name ∈ f.names, (contents name members).length ≤ 1) :
    f.read expected (.object members) = .ok a :=
  h.readAs hone

theorem of_readAs (h : f.readAs expected fewer (.object members) = .ok a) :
    f.named (fun name => (contents name members).head?) = .ok a ∧
      ∀ name ∈ f.names, (contents name members).length ≤ 1 := by
  obtain ⟨-, hpasses, hnamed⟩ := (readAs_eq_ok_iff f rfl a).mp h
  simp only [under_object] at hnamed
  refine ⟨hnamed, fun name hname => ?_⟩
  cases hlookup : f.checks.lookup name with
  | none =>
      obtain ⟨c, hc, rfl⟩ := List.mem_map.mp hname
      have hne := List.lookup_eq_none_iff.mp hlookup c hc
      simp at hne
  | some check =>
      have hlength := (hpasses name check hlookup).2.1
      rwa [under_object] at hlength

/-- A form reads the same from an object with related contents. -/
theorem Respects.readAs {R : String → Option Json → Option Json → Prop} (hf : f.Respects R)
    (hR : ∀ name, R name (contents name members).head? (contents name members').head?)
    (hone : ∀ name ∈ f.names, (contents name members').length ≤ 1)
    (h : f.readAs expected fewer (.object members) = .ok a) :
    f.readAs expected fewer (.object members') = .ok a :=
  (hf _ _ a hR (of_readAs h).1).readAs hone

end Objects

end Form

end ServiceBus.Wire
