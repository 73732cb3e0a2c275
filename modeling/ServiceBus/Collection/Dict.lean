set_option autoImplicit false

/-! # Dictionaries in key order

A dictionary from text keys, held as its entries in strictly ascending order of the keys, so
that two dictionaries with the same entries are equal. Keys are ordered by code points, which
is also the order of their UTF-8 forms. A set of names is a dictionary without values. -/

namespace ServiceBus

/-- Entries with strictly ascending keys. -/
def Ascending {β : Type} (entries : List (String × β)) : Prop :=
  entries.Pairwise fun a b => a.1 < b.1

instance {β : Type} (entries : List (String × β)) : Decidable (Ascending entries) :=
  inferInstanceAs (Decidable (entries.Pairwise _))

/-- A dictionary from text keys to values. -/
structure Dict (β : Type) where
  entries : List (String × β)
  ascending : Ascending entries
  deriving DecidableEq

/-- A set of names. -/
abbrev NameSet := Dict Unit

namespace Dict

variable {β : Type}

/-- The dictionary without entries. -/
def empty : Dict β := ⟨[], List.Pairwise.nil⟩

instance : EmptyCollection (Dict β) := ⟨empty⟩
instance : Inhabited (Dict β) := ⟨empty⟩

/-- The entries with `k` set to `v`, in place or where the order puts it. -/
def insertEntry (k : String) (v : β) : List (String × β) → List (String × β)
  | [] => [(k, v)]
  | e :: rest =>
      if k < e.1 then (k, v) :: e :: rest
      else if k = e.1 then (k, v) :: rest
      else e :: insertEntry k v rest

theorem mem_insertEntry {k : String} {v : β} {entries : List (String × β)} {e : String × β}
    (h : e ∈ insertEntry k v entries) : e = (k, v) ∨ e ∈ entries := by
  induction entries with
  | nil => simpa [insertEntry] using h
  | cons d rest ih =>
      simp only [insertEntry] at h
      split at h
      · simpa using h
      · split at h
        · rcases List.mem_cons.1 h with h | h
          · exact Or.inl h
          · exact Or.inr (List.mem_cons_of_mem _ h)
        · rcases List.mem_cons.1 h with h | h
          · exact Or.inr (h ▸ List.mem_cons_self)
          · exact (ih h).imp id fun h => List.mem_cons_of_mem _ h

theorem lt_of_not_lt_of_ne {k j : String} (h : ¬ k < j) (hne : ¬ k = j) : j < k := by
  rcases Decidable.em (j < k) with hlt | hlt
  · exact hlt
  · exact absurd (String.le_antisymm (String.not_lt.1 hlt) (String.not_lt.1 h)) hne

theorem ascending_insertEntry (k : String) (v : β) {entries : List (String × β)}
    (h : Ascending entries) : Ascending (insertEntry k v entries) := by
  induction entries with
  | nil => exact List.pairwise_singleton _ _
  | cons e rest ih =>
      have he := List.pairwise_cons.1 h
      simp only [insertEntry]
      split
      · next hlt =>
          refine List.pairwise_cons.2 ⟨?_, h⟩
          intro d hd
          rcases List.mem_cons.1 hd with hd | hd
          · exact hd ▸ hlt
          · exact String.lt_trans hlt (he.1 d hd)
      · split
        · next heq => exact List.pairwise_cons.2 ⟨fun d hd => heq ▸ he.1 d hd, he.2⟩
        · next hnlt hne =>
            refine List.pairwise_cons.2 ⟨?_, ih he.2⟩
            intro d hd
            rcases mem_insertEntry hd with hd | hd
            · exact hd ▸ lt_of_not_lt_of_ne hnlt hne
            · exact he.1 d hd

/-- A key behind all others goes to the end. -/
theorem insertEntry_of_lt {k : String} {entries : List (String × β)} (h : ∀ e ∈ entries, e.1 < k)
    (v : β) : insertEntry k v entries = entries ++ [(k, v)] := by
  induction entries with
  | nil => rfl
  | cons e rest ih =>
      obtain ⟨he, hrest⟩ := List.forall_mem_cons.1 h
      have hne : ¬ k = e.1 := fun heq => String.lt_irrefl k (heq ▸ he)
      rw [insertEntry, if_neg (String.lt_asymm he), if_neg hne, ih hrest, List.cons_append]

/-- The dictionary with `k` set to `v`. -/
def insert (d : Dict β) (k : String) (v : β) : Dict β :=
  ⟨insertEntry k v d.entries, ascending_insertEntry k v d.ascending⟩

/-- The value under a key. -/
def find? (d : Dict β) (k : String) : Option β := d.entries.lookup k

/-- The keys, in ascending order. -/
def keys (d : Dict β) : List String := d.entries.map Prod.fst

/-- Whether the key has a value. -/
def contains (d : Dict β) (k : String) : Bool := (d.find? k).isSome

/-- Whether there are no entries. -/
def isEmpty (d : Dict β) : Bool := d.entries.isEmpty

/-- The dictionary with all the entries, where a later entry replaces an earlier one. -/
def ofList (entries : List (String × β)) : Dict β :=
  entries.foldl (fun d e => d.insert e.1 e.2) empty

/-- The set of the names in a list. -/
def ofNames (names : List String) : NameSet := ofList (names.map fun n => (n, ()))

theorem entries_foldl_insert (d : Dict β) (entries : List (String × β))
    (h : Ascending (d.entries ++ entries)) :
    (entries.foldl (fun d e => d.insert e.1 e.2) d).entries = d.entries ++ entries := by
  induction entries generalizing d with
  | nil => exact (List.append_nil _).symm
  | cons e rest ih =>
      have hlast : ∀ e' ∈ d.entries, e'.1 < e.1 := fun e' he' =>
        (List.pairwise_append.1 h).2.2 e' he' e List.mem_cons_self
      have hinsert : (d.insert e.1 e.2).entries = d.entries ++ [e] := insertEntry_of_lt hlast e.2
      have hassoc : d.entries ++ e :: rest = (d.insert e.1 e.2).entries ++ rest := by
        rw [hinsert, List.append_assoc, List.singleton_append]
      rw [hassoc] at h ⊢
      exact ih _ h

/-- A dictionary is made again of its entries. -/
theorem ofList_entries (d : Dict β) : ofList d.entries = d := by
  have h := entries_foldl_insert empty d.entries d.ascending
  cases hd : ofList d.entries with
  | mk entries _ =>
      have hentries : entries = d.entries := (congrArg Dict.entries hd).symm.trans h
      cases d
      cases hentries
      rfl

/-- A set of names is made again of its names. -/
theorem ofNames_keys (names : NameSet) : ofNames names.keys = names := by
  have hentries : (names.keys.map fun n => (n, ())) = names.entries := by
    rw [keys, List.map_map]
    exact List.map_id' names.entries
  rw [ofNames, hentries, ofList_entries]

/-! ## Look-up -/

theorem lookup_cons_eq (j l : String) (w : β) (rest : List (String × β)) :
    List.lookup j ((l, w) :: rest) = if j = l then some w else List.lookup j rest := by
  by_cases h : j = l
  · simp [h]
  · simp [List.lookup_cons, h, beq_eq_false_iff_ne.2 h]

theorem lookup_insertEntry (k j : String) (v : β) (entries : List (String × β)) :
    (insertEntry k v entries).lookup j = if j = k then some v else entries.lookup j := by
  induction entries with
  | nil => exact lookup_cons_eq j k v []
  | cons e rest ih =>
      obtain ⟨l, w⟩ := e
      simp only [insertEntry]
      split
      · exact lookup_cons_eq j k v _
      · split
        · next hkl =>
            subst hkl
            by_cases h : j = k <;> simp [lookup_cons_eq, h]
        · next hkl =>
            -- a key is not the first one and the new one at a time
            rw [lookup_cons_eq, lookup_cons_eq, ih]
            by_cases h : j = l
            · subst h
              simp [Ne.symm hkl]
            · simp [h]

theorem find?_insert (d : Dict β) (k j : String) (v : β) :
    (d.insert k v).find? j = if j = k then some v else d.find? j :=
  lookup_insertEntry k j v d.entries

theorem ascending_keys (d : Dict β) : d.keys.Pairwise fun a b => a < b :=
  List.pairwise_map.2 d.ascending

/-- A key that is found comes before all others that could have been. -/
theorem le_of_find?_keys {d : Dict β} {p : String → Bool} {k j : String}
    (h : d.keys.find? p = some k) (hj : j ∈ d.keys) (hp : p j = true) : k ≤ j := by
  obtain ⟨-, before, after, hkeys, hbefore⟩ := List.find?_eq_some_iff_append.1 h
  have hascending := d.ascending_keys
  rw [hkeys] at hj hascending
  rcases List.mem_append.1 hj with hj | hj
  · have hnot := hbefore j hj
    rw [hp] at hnot
    cases hnot
  · rcases List.mem_cons.1 hj with hj | hj
    · exact hj ▸ String.le_refl j
    · have hafter := (List.pairwise_append.1 hascending).2.1
      exact String.not_lt.1 (String.lt_asymm (List.rel_of_pairwise_cons hafter hj))

/-- The first key with a property is the smallest one. -/
theorem find?_keys_eq_some_iff (d : Dict β) (p : String → Bool) (k : String) :
    d.keys.find? p = some k ↔
      (k ∈ d.keys ∧ p k = true) ∧ ∀ j ∈ d.keys, p j = true → k ≤ j := by
  constructor
  · intro hk
    exact ⟨⟨List.mem_of_find?_eq_some hk, List.find?_some hk⟩, fun j => le_of_find?_keys hk⟩
  · rintro ⟨⟨hk, hp⟩, hmin⟩
    obtain ⟨j, hj⟩ := Option.isSome_iff_exists.1 (List.find?_isSome.2 ⟨k, hk, hp⟩)
    have hle := hmin j (List.mem_of_find?_eq_some hj) (List.find?_some hj)
    rw [hj, String.le_antisymm hle (le_of_find?_keys hj hk hp)]

end Dict

end ServiceBus
