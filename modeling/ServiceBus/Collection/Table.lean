set_option autoImplicit false

/-! # Tables

A table holds at most one value under each key. The order of its entries is of no account:
`insert` puts an entry in front and takes the former one under the same key away. -/

namespace ServiceBus

/-- At most one value under each key. -/
structure Table (κ β : Type) where
  entries : List (κ × β)
  nodup : (entries.map Prod.fst).Nodup
  deriving DecidableEq

namespace Table

variable {κ β : Type}

/-- The table without entries. -/
def empty : Table κ β := ⟨[], List.nodup_nil⟩

instance : EmptyCollection (Table κ β) := ⟨empty⟩
instance : Inhabited (Table κ β) := ⟨empty⟩

/-- Tables with the same entries are the same. -/
theorem eq_of_entries {t u : Table κ β} (h : t.entries = u.entries) : t = u := by
  cases t
  cases u
  cases h
  rfl

/-- The number of entries. -/
def size (t : Table κ β) : Nat := t.entries.length

/-- The entries that satisfy `p`. -/
def filter (t : Table κ β) (p : κ → β → Bool) : Table κ β where
  entries := t.entries.filter fun e => p e.1 e.2
  nodup := t.nodup.sublist (List.filter_sublist.map _)

variable [DecidableEq κ]

/-- The value under a key. -/
def find? (t : Table κ β) (k : κ) : Option β :=
  (t.entries.find? fun e => e.1 = k).map Prod.snd

/-- Whether the key has a value. -/
def contains (t : Table κ β) (k : κ) : Bool := (t.find? k).isSome

/-- The table without an entry under `k`. -/
def erase (t : Table κ β) (k : κ) : Table κ β := t.filter fun j _ => j ≠ k

/-- The table with `v` under `k`. -/
def insert (t : Table κ β) (k : κ) (v : β) : Table κ β where
  entries := (k, v) :: (t.erase k).entries
  nodup := by
    refine List.nodup_cons.2 ⟨?_, (t.erase k).nodup⟩
    simp [erase, filter]

/-! ## Look-up after a change -/

@[simp] theorem find?_insert_self (t : Table κ β) (k : κ) (v : β) :
    (t.insert k v).find? k = some v := by
  simp [find?, insert]

theorem find?_erase (t : Table κ β) (k j : κ) :
    (t.erase k).find? j = if j = k then none else t.find? j := by
  simp only [find?, erase, filter, List.find?_filter]
  by_cases h : j = k
  · subst h
    simp
  · have hp : (fun e : κ × β => !decide (e.1 = k) && decide (e.1 = j)) =
        fun e => decide (e.1 = j) := by
      funext e
      by_cases he : e.1 = j
      · simp [he, h]
      · simp [he]
    simp [h, hp]

theorem find?_insert_of_ne (t : Table κ β) {k j : κ} (v : β) (h : j ≠ k) :
    (t.insert k v).find? j = t.find? j := by
  have hk : ¬ k = j := fun e => h e.symm
  have he := find?_erase t k j
  simp only [h, if_false] at he
  simp only [find?, insert, List.find?_cons, hk, decide_false] at he ⊢
  exact he

/-- What is under a key is an entry, and the only one with that key. -/
theorem find?_eq_some_iff {t : Table κ β} {k : κ} {v : β} :
    t.find? k = some v ↔ (k, v) ∈ t.entries := by
  obtain ⟨entries, hnodup⟩ := t
  show (entries.find? fun e => e.1 = k).map Prod.snd = some v ↔ (k, v) ∈ entries
  induction entries with
  | nil => simp
  | cons e entries ih =>
      rw [List.map_cons, List.nodup_cons] at hnodup
      rw [List.find?_cons, List.mem_cons]
      by_cases he : e.1 = k
      · rw [decide_eq_true he, Option.map_some, Option.some.injEq]
        constructor
        · rintro rfl
          exact .inl (Prod.ext he.symm rfl)
        · rintro (rfl | hmem)
          · rfl
          · exact absurd (he ▸ List.mem_map_of_mem (f := Prod.fst) hmem) hnodup.1
      · have hne : (k, v) ≠ e := fun heq => he (congrArg Prod.fst heq).symm
        rw [decide_eq_false he, ih hnodup.2, or_iff_right hne]

/-- The keys of a table are those with a value. -/
theorem mem_keys_iff {t : Table κ β} {k : κ} :
    k ∈ t.entries.map Prod.fst ↔ ∃ v, t.find? k = some v := by
  rw [List.mem_map]
  constructor
  · rintro ⟨⟨k, v⟩, hmem, rfl⟩
    exact ⟨v, find?_eq_some_iff.mpr hmem⟩
  · rintro ⟨v, hv⟩
    exact ⟨(k, v), find?_eq_some_iff.mp hv, rfl⟩

theorem find?_filter_eq_some_iff {t : Table κ β} {p : κ → β → Bool} {k : κ} {v : β} :
    (t.filter p).find? k = some v ↔ t.find? k = some v ∧ p k v = true := by
  rw [find?_eq_some_iff, find?_eq_some_iff]
  exact List.mem_filter

theorem contains_insert (t : Table κ β) (k j : κ) (v : β) :
    (t.insert k v).contains j = (decide (j = k) || t.contains j) := by
  by_cases h : j = k
  · subst h
    simp [contains]
  · simp [contains, find?_insert_of_ne t v h, h]

theorem contains_insert_self (t : Table κ β) (k : κ) (v : β) :
    (t.insert k v).contains k = true := by
  rw [contains_insert, decide_eq_true rfl, Bool.true_or]

theorem contains_erase (t : Table κ β) (k j : κ) :
    (t.erase k).contains j = (!decide (j = k) && t.contains j) := by
  by_cases h : j = k <;> simp [contains, find?_erase, h]

theorem contains_erase_self (t : Table κ β) (k : κ) : (t.erase k).contains k = false := by
  rw [contains_erase, decide_eq_true rfl, Bool.not_true, Bool.false_and]

/-! ## Taking away what was put in -/

/-- Without an entry under the key there is nothing to take away. -/
theorem erase_of_not_contains {t : Table κ β} {k : κ} (h : t.contains k = false) :
    t.erase k = t := by
  have hne : ∀ e ∈ t.entries, e.1 ≠ k := by simpa [contains, find?] using h
  refine eq_of_entries (List.filter_eq_self.mpr fun e he => ?_)
  exact decide_eq_true (hne e he)

/-- What is put in under a new key comes to the entries that there are. -/
theorem entries_insert {t : Table κ β} {k : κ} (v : β) (h : t.contains k = false) :
    (t.insert k v).entries = (k, v) :: t.entries := by
  show (k, v) :: (t.erase k).entries = _
  rw [erase_of_not_contains h]

/-- What is put in under a new key and taken away again leaves the table as it was. -/
theorem erase_insert_self {t : Table κ β} {k : κ} (v : β) (h : t.contains k = false) :
    (t.insert k v).erase k = t := by
  have htwice : (t.insert k v).erase k = (t.erase k).erase k := by
    refine eq_of_entries ?_
    show ((k, v) :: (t.erase k).entries).filter (fun e => e.1 ≠ k) =
      (t.erase k).entries.filter fun e => e.1 ≠ k
    rw [List.filter_cons_of_neg (by simp)]
  rw [htwice, erase_of_not_contains h, erase_of_not_contains h]

end Table

end ServiceBus
