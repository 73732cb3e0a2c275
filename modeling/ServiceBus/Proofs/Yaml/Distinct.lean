import ServiceBus.Proofs.Yaml.Paths
import ServiceBus.Yaml.Reader

set_option autoImplicit false

/-! # Entries under a key

A mapping that is read from a text has at most one entry under a key (`once_of_ofText?`), and
keeps to this when entries are laid over it. What is taken out of such a mapping, by putting its
last entry in the place of another one, is just this one entry (`perm_discard`). -/

namespace ServiceBus.Yaml

/-- There is at most one entry under the name as a key. -/
def Once (name : String) (entries : List (Yaml × Yaml)) : Prop :=
  ((entries.map Prod.fst).filter (same (.string name))).length ≤ 1

section Once

variable {name : String} {lower upper : List (Yaml × Yaml)}

theorem keys_eq_nil_iff {k : Yaml} :
    (lower.map Prod.fst).filter (same k) = [] ↔ ∀ e ∈ lower, same k e.1 = false := by
  simp

theorem Once.of_perm (h : Once name lower) (hperm : lower.Perm upper) : Once name upper := by
  have hlength := ((hperm.map Prod.fst).filter (same (.string name))).length_eq
  rwa [Once, ← hlength]

theorem Once.filter (h : Once name lower) (p : Yaml × Yaml → Bool) : Once name (lower.filter p) :=
  Nat.le_trans ((List.filter_sublist.map Prod.fst).filter (same (.string name))).length_le h

/-! ## Laying entries over others -/

theorem once_lay (h : Once name lower) (e : Yaml × Yaml) : Once name (lay lower e) := by
  rw [lay]
  split
  · rw [Once, map_fst_replace]
    exact h
  · next hnone =>
      rw [Once, List.map_append, List.filter_append, List.map_singleton]
      cases hsame : same (.string name) e.1 with
      | true =>
          rw [same_string_iff.mp hsame, find?_eq_none_iff, ← keys_eq_nil_iff] at hnone
          rw [hnone, List.nil_append]
          exact List.length_filter_le _ _
      | false =>
          rw [List.filter_cons_of_neg (by rw [hsame]; decide), List.filter_nil, List.append_nil]
          exact h

theorem once_mergeEntries (h : Once name lower) (upper : List (Yaml × Yaml)) :
    Once name (mergeEntries lower upper) := by
  induction upper generalizing lower with
  | nil =>
      rw [mergeEntries]
      exact h
  | cons e upper ih =>
      rw [mergeEntries_cons]
      exact ih (once_lay h e)

/-! ## Discarding entries -/

/-- What is discarded is the entry under the key, if there is one at most. -/
theorem perm_discard (h : Once name lower) :
    (discard (.string name) lower).Perm (lower.filter fun e => !same (.string name) e.1) := by
  have hkeep : ∀ {entries : List (Yaml × Yaml)}, (∀ e ∈ entries, same (.string name) e.1 = false) →
      entries.filter (fun e => !same (.string name) e.1) = entries :=
    fun hnone => List.filter_eq_self.mpr fun e he => by rw [hnone e he]; rfl
  obtain ⟨heq, hnone⟩ | ⟨e, hsame, hperm⟩ := discard_cases (.string name) lower
  · rw [heq, hkeep hnone]
  · -- the entry that was taken out is the only one, so that there is nothing more to leave out
    have honce : Once name (e :: discard (.string name) lower) := h.of_perm hperm
    rw [Once, List.map_cons, List.filter_cons_of_pos hsame, List.length_cons] at honce
    have hnone := keys_eq_nil_iff.mp (List.eq_nil_of_length_eq_zero (Nat.le_zero.mp
      (Nat.le_of_succ_le_succ honce)))
    have hfilter := hperm.filter fun e => !same (.string name) e.1
    rw [List.filter_cons_of_neg (by rw [hsame]; decide), hkeep hnone] at hfilter
    exact hfilter.symm

/-! ## Entries that are read -/

theorem once_of_distinct (h : distinct lower = true) : Once name lower := by
  induction lower with
  | nil => exact Nat.zero_le 1
  | cons e lower ih =>
      obtain ⟨k, v⟩ := e
      rw [distinct, Bool.and_eq_true, Option.isNone_iff_eq_none, find?_eq_none_iff,
        ← keys_eq_nil_iff] at h
      rw [Once, List.map_cons]
      cases hsame : same (.string name) k with
      | true =>
          rw [List.filter_cons_of_pos hsame, ← same_string_iff.mp hsame, h.1]
          exact Nat.le_refl 1
      | false =>
          rw [List.filter_cons_of_neg (by rw [hsame]; decide)]
          exact ih h.2

end Once

/-- No value that is made from something else with a tag is a mapping. -/
theorem withTag_ne_mapping {tag : Option Tag} {v : Yaml} (h : ∀ entries, v ≠ .mapping entries)
    (entries : List (Yaml × Yaml)) : Scalar.withTag tag v ≠ .mapping entries := by
  rw [Scalar.withTag]
  cases tag.bind Tag.name? with
  | some name => exact fun h => nomatch h
  | none => exact h entries

section Scalars

variable {s : String} {v : Yaml} (entries : List (Yaml × Yaml))

theorem ne_mapping_of_ofPlain? (h : Scalar.ofPlain? s = some v) : v ≠ .mapping entries := by
  have hreal : ((Scalar.real? s.toList).map fun x => Yaml.float (.ofFloat x)).getD (.string s) ≠
      .mapping entries := by
    cases Scalar.real? s.toList <;> exact fun h => nomatch h
  rintro rfl
  unfold Scalar.ofPlain? at h
  split at h
  · cases h
  · split at h
    · cases h
    · split at h
      · cases h
      · split at h
        · cases h
        · exact hreal (Option.some.inj h)
    · split at h
      · cases h
      · exact hreal (Option.some.inj h)

theorem ne_mapping_of_ofText? {plain : Bool} (h : Scalar.ofText? plain s = some v) :
    v ≠ .mapping entries := by
  cases plain with
  | true => exact ne_mapping_of_ofPlain? entries h
  | false =>
      cases h
      exact fun h => nomatch h

theorem ne_mapping_of_ofCore? {name : String} (h : Scalar.ofCore? name s = some v) :
    v ≠ .mapping entries := by
  rintro rfl
  unfold Scalar.ofCore? at h
  split at h
  · obtain ⟨b, -, h⟩ := Option.map_eq_some_iff.mp h
    cases h
  · obtain ⟨n, -, h⟩ := Option.map_eq_some_iff.mp h
    cases h
  · obtain ⟨x, -, h⟩ := Option.map_eq_some_iff.mp h
    cases h
  · split at h <;> cases h
  · cases h

/-- A scalar is no mapping. -/
theorem ne_mapping_of_value? {tag : Option Tag} {plain : Bool}
    (h : Scalar.value? tag plain s = some v) : v ≠ .mapping entries := by
  unfold Scalar.value? at h
  split at h
  · exact ne_mapping_of_ofText? entries h
  · split at h
    · obtain ⟨w, hw, rfl⟩ := Option.map_eq_some_iff.mp h
      exact withTag_ne_mapping (fun entries => ne_mapping_of_ofText? entries hw) entries
    · split at h
      · exact ne_mapping_of_ofCore? entries h
      · cases h
        exact fun h => nomatch h

end Scalars

/-- Keys of a mapping that has been checked are all different. -/
theorem distinct_of_ofEntries? {tag : Option Tag} {read entries : List (Yaml × Yaml)}
    (h : ofEntries? tag read = some (.mapping entries)) : distinct entries = true := by
  unfold ofEntries? at h
  split at h
  · next hdistinct =>
      rw [Option.some.injEq, Scalar.withTag] at h
      cases htag : tag.bind Tag.name? with
      | some name =>
          rw [htag] at h
          cases h
      | none =>
          rw [htag] at h
          cases h
          exact hdistinct
  · cases h

theorem distinct_of_ofNode {targets : List (Nat × Node Nat)} {depth left left' : Nat}
    {n : Node Nat} {entries : List (Yaml × Yaml)}
    (h : ofNode targets depth n left = some (.mapping entries, left')) : distinct entries = true := by
  cases depth with
  | zero =>
      unfold ofNode at h
      obtain ⟨⟨m, left⟩, -, h⟩ := Option.bind_eq_some_iff.mp h
      cases m with
      | scalar p plain text =>
          obtain ⟨v, hv, h⟩ := Option.bind_eq_some_iff.mp h
          cases h
          exact absurd rfl (ne_mapping_of_value? entries hv)
      | _ => cases h
  | succ depth =>
      unfold ofNode at h
      obtain ⟨⟨m, left⟩, -, h⟩ := Option.bind_eq_some_iff.mp h
      cases m with
      | scalar p plain text =>
          obtain ⟨v, hv, h⟩ := Option.bind_eq_some_iff.mp h
          cases h
          exact absurd rfl (ne_mapping_of_value? entries hv)
      | sequence p items =>
          obtain ⟨⟨read, left⟩, -, h⟩ := Option.bind_eq_some_iff.mp h
          have hv : Scalar.withTag p.tag (.sequence read) = .mapping entries :=
            congrArg Prod.fst (Option.some.inj h)
          have hne : ∀ entries, Yaml.sequence read ≠ .mapping entries := fun _ h => nomatch h
          exact absurd hv (withTag_ne_mapping hne entries)
      | mapping p read =>
          obtain ⟨⟨read, left⟩, -, h⟩ := Option.bind_eq_some_iff.mp h
          obtain ⟨v, hv, h⟩ := Option.bind_eq_some_iff.mp h
          cases h
          exact distinct_of_ofEntries? hv
      | _ => cases h

/-- A mapping that is read from a text has at most one entry under a key. -/
theorem once_of_ofText? {s : String} {entries : List (Yaml × Yaml)}
    (h : ofText? s = some (.mapping entries)) (name : String) : Once name entries := by
  obtain ⟨ts, -, h⟩ := Option.bind_eq_some_iff.mp h
  obtain ⟨n, -, h⟩ := Option.bind_eq_some_iff.mp h
  obtain ⟨n, -, h⟩ := Option.bind_eq_some_iff.mp h
  obtain ⟨⟨v, left⟩, hrun, rfl⟩ := Option.map_eq_some_iff.mp h
  exact once_of_distinct (distinct_of_ofNode hrun)

end ServiceBus.Yaml
