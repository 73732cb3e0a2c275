import ServiceBus.Proofs.Yaml.Merge

set_option autoImplicit false

/-! # What merging does to what is at a path

In a tree whose mappings have different strings as keys (`Keyed`), a path of keys leads to one value
at most (`at?`). What a merged tree has at a path depends on what the two trees have there: a value
of the upper one is there as it is, unless both have mappings at the path, which are then merged
themselves; and where the upper tree has nothing, and no value on the way that would replace what
is below, all is as in the lower one. Laying the same tree over once more changes nothing
(`merge_paths`). -/

namespace ServiceBus.Yaml

/-! ## What is under a key -/

section Find

variable {k v w : Yaml} {name : String} {lower upper : List (Yaml × Yaml)}

theorem same_string_right {k : Yaml} : same k (.string name) = true ↔ k = .string name := by
  cases k with
  | string name' => rw [same, beq_iff_eq, string.injEq]
  | _ => constructor <;> intro h <;> cases h

theorem find?_append (k : Yaml) (lower upper : List (Yaml × Yaml)) :
    find? k (lower ++ upper) = (find? k lower).or (find? k upper) := by
  induction lower with
  | nil => rfl
  | cons e lower ih =>
      rw [List.cons_append, find?, find?]
      split
      · rfl
      · exact ih

theorem mem_of_find? (h : find? (.string name) lower = some v) : (.string name, v) ∈ lower := by
  induction lower with
  | nil => cases h
  | cons e lower ih =>
      obtain ⟨l, w⟩ := e
      rw [find?] at h
      split at h
      · next hsame =>
          cases h
          rw [same_string_iff.mp hsame]
          exact List.mem_cons_self
      · exact List.mem_cons_of_mem _ (ih h)

theorem find?_of_mem (h : (.string name, v) ∈ lower) (hkeys : (lower.map Prod.fst).Nodup) :
    find? (.string name) lower = some v := by
  induction lower with
  | nil => cases h
  | cons e lower ih =>
      rw [List.map_cons, List.nodup_cons] at hkeys
      rw [find?]
      rcases List.mem_cons.mp h with rfl | hmem
      · rw [if_pos (same_string_iff.mpr rfl)]
      · have hne : e.1 ≠ .string name := fun heq =>
          hkeys.1 (heq ▸ List.mem_map_of_mem (f := Prod.fst) hmem)
        rw [if_neg (mt same_string_iff.mp hne)]
        exact ih hmem hkeys.2

theorem find?_isSome_iff :
    (find? (.string name) lower).isSome = true ↔ .string name ∈ lower.map Prod.fst := by
  induction lower with
  | nil => exact iff_of_false (fun h => nomatch h) List.not_mem_nil
  | cons e lower ih =>
      rw [find?, List.map_cons, List.mem_cons]
      split
      · next hsame => exact iff_of_true rfl (.inl (same_string_iff.mp hsame).symm)
      · next hsame =>
          rw [ih]
          exact (or_iff_right fun heq => hsame (same_string_iff.mpr heq.symm)).symm

theorem find?_replace_of_ne (h : k ≠ .string name) (v : Yaml) (lower : List (Yaml × Yaml)) :
    find? (.string name) (replace k v lower) = find? (.string name) lower := by
  induction lower with
  | nil => rfl
  | cons e lower ih =>
      obtain ⟨l, w⟩ := e
      rw [replace]
      split
      · next hsame =>
          have hne : ¬ same (.string name) l = true := fun heq =>
            h (same_string_right.mp (same_string_iff.mp heq ▸ hsame))
          rw [find?, find?, if_neg hne, if_neg hne]
      · rw [find?, find?, ih]

theorem find?_replace_self (h : find? k lower = some w) (v : Yaml) :
    find? k (replace k v lower) = some v := by
  induction lower with
  | nil => cases h
  | cons e lower ih =>
      obtain ⟨l, u⟩ := e
      rw [find?] at h
      rw [replace]
      split at h
      · next hsame => rw [if_pos hsame, find?, if_pos hsame]
      · next hsame => rw [if_neg hsame, find?, if_neg hsame, ih h]

/-- A value that is put in its own place changes nothing. -/
theorem replace_eq_self (h : find? k lower = some v) : replace k v lower = lower := by
  induction lower with
  | nil => rfl
  | cons e lower ih =>
      obtain ⟨l, u⟩ := e
      rw [find?] at h
      rw [replace]
      split at h
      · next hsame =>
          cases h
          rw [if_pos hsame]
      · next hsame => rw [if_neg hsame, ih h]

theorem map_fst_replace (k v : Yaml) (lower : List (Yaml × Yaml)) :
    (replace k v lower).map Prod.fst = lower.map Prod.fst := by
  induction lower with
  | nil => rfl
  | cons e lower ih =>
      obtain ⟨l, u⟩ := e
      rw [replace]
      split
      · rfl
      · rw [List.map_cons, List.map_cons, ih]

theorem mem_replace {e : Yaml × Yaml} (h : e ∈ replace k v lower) : e ∈ lower ∨ e.2 = v := by
  induction lower with
  | nil => cases h
  | cons l lower ih =>
      rw [replace] at h
      split at h
      · rcases List.mem_cons.mp h with rfl | hmem
        · exact .inr rfl
        · exact .inl (List.mem_cons_of_mem _ hmem)
      · rcases List.mem_cons.mp h with rfl | hmem
        · exact .inl List.mem_cons_self
        · exact (ih hmem).imp_left (List.mem_cons_of_mem _)

theorem find?_lay_of_ne (h : k ≠ .string name) :
    find? (.string name) (lay lower (k, v)) = find? (.string name) lower := by
  rw [lay]
  split
  · exact find?_replace_of_ne h _ lower
  · rw [find?_append, find?, if_neg (mt same_string_iff.mp h), find?, Option.or_none]

/-- An entry is merged with what is under its key, if there is anything. -/
theorem find?_lay_self (name : String) (v : Yaml) (lower : List (Yaml × Yaml)) :
    find? (.string name) (lay lower (.string name, v)) =
      some ((find? (.string name) lower).elim v fun w => merge w v) := by
  rw [lay]
  split
  · next w hw => rw [hw, find?_replace_self hw, Option.elim]
  · next hnone =>
      rw [hnone, find?_append, hnone, find?, if_pos (same_string_iff.mpr rfl)]
      rfl

theorem find?_mergeEntries_of_absent (h : find? (.string name) upper = none) :
    find? (.string name) (mergeEntries lower upper) = find? (.string name) lower := by
  induction upper generalizing lower with
  | nil => rw [mergeEntries]
  | cons e upper ih =>
      rw [find?] at h
      split at h
      · cases h
      · next hsame =>
          rw [mergeEntries_cons, ih h, find?_lay_of_ne (mt same_string_iff.mpr hsame)]

theorem find?_mergeEntries_of_mem (h : find? (.string name) upper = some v)
    (hkeys : (upper.map Prod.fst).Nodup) :
    find? (.string name) (mergeEntries lower upper) =
      some ((find? (.string name) lower).elim v fun w => merge w v) := by
  induction upper generalizing lower with
  | nil => cases h
  | cons e upper ih =>
      rw [List.map_cons, List.nodup_cons] at hkeys
      rw [find?] at h
      rw [mergeEntries_cons]
      split at h
      · next hsame =>
          obtain ⟨k, u⟩ := e
          obtain rfl : k = .string name := same_string_iff.mp hsame
          cases h
          have habsent : find? (.string name) upper = none := by
            rw [← Option.not_isSome_iff_eq_none, find?_isSome_iff]
            exact hkeys.1
          rw [find?_mergeEntries_of_absent habsent, find?_lay_self]
      · next hsame => rw [ih h hkeys.2, find?_lay_of_ne (mt same_string_iff.mpr hsame)]

/-- Laying entries over what they do not change changes nothing. -/
theorem mergeEntries_eq_self
    (h : ∀ e ∈ upper, ∃ w, find? e.1 lower = some w ∧ merge w e.2 = w) :
    mergeEntries lower upper = lower := by
  induction upper with
  | nil => rw [mergeEntries]
  | cons e upper ih =>
      obtain ⟨⟨w, hw, hmerge⟩, hupper⟩ := List.forall_mem_cons.mp h
      have hlay : lay lower e = lower := by
        rw [lay, hw]
        show replace e.1 (merge w e.2) lower = lower
        rw [hmerge, replace_eq_self hw]
      rw [mergeEntries_cons, hlay, ih hupper]

end Find

/-! ## Trees -/

/-- The keys of a mapping are different strings, and so are those of the mappings below. -/
inductive Keyed : Yaml → Prop where
  | mapping (entries : List (Yaml × Yaml)) (strings : ∀ e ∈ entries, ∃ name, e.1 = .string name)
      (keys : (entries.map Prod.fst).Nodup) (values : ∀ e ∈ entries, Keyed e.2) :
      Keyed (.mapping entries)
  | other (v : Yaml) (h : ∀ entries, v ≠ .mapping entries) : Keyed v

/-- What is at a path: the value itself or, under the first key of a mapping, what is at the rest
of the path. -/
def at? : List String → Yaml → Option Yaml
  | [], v => some v
  | name :: path, .mapping entries => (find? (.string name) entries).bind (at? path)
  | _ :: _, _ => none

section Trees

variable {v w u : Yaml} {name : String} {path : List String} {lower upper : List (Yaml × Yaml)}

theorem at?_cons (name : String) (path : List String) (entries : List (Yaml × Yaml)) :
    at? (name :: path) (.mapping entries) = (find? (.string name) entries).bind (at? path) :=
  rfl

theorem at?_cons_of_not_mapping (h : ∀ entries, v ≠ .mapping entries) :
    at? (name :: path) v = none := by
  cases v with
  | mapping entries => exact absurd rfl (h entries)
  | _ => rfl

theorem exists_of_at?_cons (h : at? (name :: path) w = some v) :
    ∃ entries u, w = .mapping entries ∧ find? (.string name) entries = some u ∧
      at? path u = some v := by
  cases w with
  | mapping entries =>
      obtain ⟨u, hu, hv⟩ := Option.bind_eq_some_iff.mp h
      exact ⟨entries, u, rfl, hu, hv⟩
  | _ => cases h

theorem Keyed.strings (h : Keyed (.mapping upper)) : ∀ e ∈ upper, ∃ name, e.1 = .string name := by
  cases h with
  | mapping _ strings _ _ => exact strings
  | other _ h => exact absurd rfl (h upper)

theorem Keyed.nodup (h : Keyed (.mapping upper)) : (upper.map Prod.fst).Nodup := by
  cases h with
  | mapping _ _ keys _ => exact keys
  | other _ h => exact absurd rfl (h upper)

theorem Keyed.values (h : Keyed (.mapping upper)) : ∀ e ∈ upper, Keyed e.2 := by
  cases h with
  | mapping _ _ _ values => exact values
  | other _ h => exact absurd rfl (h upper)

theorem Keyed.of_find? (h : Keyed (.mapping upper)) (hv : find? (.string name) upper = some v) :
    Keyed v :=
  h.values _ (mem_of_find? hv)

theorem Keyed.of_at? (h : Keyed u) (hv : at? path u = some v) : Keyed v := by
  induction path generalizing u with
  | nil => exact Option.some.inj hv ▸ h
  | cons name path ih =>
      obtain ⟨us, u', rfl, hu', hv'⟩ := exists_of_at?_cons hv
      exact ih (h.of_find? hu') hv'

/-! ## What a merged tree has at a path -/

/-- What the upper tree has is there as it is, unless there is a mapping under a mapping. -/
theorem at?_merge_of_replaced (hu : Keyed u) (hv : at? path u = some v)
    (h : (∀ entries, v ≠ .mapping entries) ∨ ∀ entries, at? path w ≠ some (.mapping entries)) :
    at? path (merge w u) = some v := by
  induction path generalizing w u with
  | nil =>
      obtain rfl : u = v := Option.some.inj hv
      refine congrArg some (merge_eq_right (h.imp id fun h entries hw => ?_))
      exact h entries (congrArg some hw)
  | cons name path ih =>
      obtain ⟨us, u', rfl, hu', hv'⟩ := exists_of_at?_cons hv
      by_cases hmapping : ∃ ws, w = .mapping ws
      · obtain ⟨ws, rfl⟩ := hmapping
        rw [merge_mapping, at?_cons, find?_mergeEntries_of_mem hu' hu.nodup, Option.bind_some]
        rw [at?_cons] at h
        cases hw : find? (.string name) ws with
        | none => exact hv'
        | some w' =>
            rw [hw] at h
            exact ih (hu.of_find? hu') hv' h
      · rw [merge_eq_right (.inr (not_exists.mp hmapping))]
        exact hv

/-- Mappings that are at the same path are merged themselves. -/
theorem at?_merge_of_mappings (hu : Keyed u) (hupper : at? path u = some (.mapping upper))
    (hlower : at? path w = some (.mapping lower)) :
    at? path (merge w u) = some (.mapping (mergeEntries lower upper)) := by
  induction path generalizing w u with
  | nil =>
      obtain rfl : u = .mapping upper := Option.some.inj hupper
      obtain rfl : w = .mapping lower := Option.some.inj hlower
      exact congrArg some (merge_mapping lower upper)
  | cons name path ih =>
      obtain ⟨us, u', rfl, hu', hupper'⟩ := exists_of_at?_cons hupper
      obtain ⟨ws, w', rfl, hw', hlower'⟩ := exists_of_at?_cons hlower
      rw [merge_mapping, at?_cons, find?_mergeEntries_of_mem hu' hu.nodup, hw']
      exact ih (hu.of_find? hu') hupper' hlower'

/-- Where the upper tree has nothing, and only mappings on the way, all is as in the lower one. -/
theorem at?_merge_of_absent (hu : Keyed u) (habsent : at? path u = none)
    (hway : ∀ before v, before <+: path → at? before u = some v → ∃ entries, v = .mapping entries) :
    at? path (merge w u) = at? path w := by
  induction path generalizing w u with
  | nil => cases habsent
  | cons name path ih =>
      obtain ⟨us, rfl⟩ := hway [] u List.nil_prefix rfl
      by_cases hmapping : ∃ ws, w = .mapping ws
      · obtain ⟨ws, rfl⟩ := hmapping
        rw [merge_mapping, at?_cons, at?_cons]
        rw [at?_cons] at habsent
        cases hu' : find? (.string name) us with
        | none => rw [find?_mergeEntries_of_absent hu']
        | some u' =>
            rw [hu'] at habsent
            rw [find?_mergeEntries_of_mem hu' hu.nodup]
            cases hw' : find? (.string name) ws with
            | none => exact habsent
            | some w' =>
                refine ih (hu.of_find? hu') habsent fun before v hbefore hv => ?_
                refine hway (name :: before) v (List.cons_prefix_cons.mpr ⟨rfl, hbefore⟩) ?_
                rw [at?_cons, hu']
                exact hv
      · rw [merge_eq_right (.inr (not_exists.mp hmapping)), habsent,
          at?_cons_of_not_mapping (not_exists.mp hmapping)]

/-- The keys of merged mappings are those of both. -/
theorem mem_keys_mergeEntries (hupper : ∀ e ∈ upper, ∃ name, e.1 = .string name) {k : Yaml} :
    k ∈ (mergeEntries lower upper).map Prod.fst ↔
      k ∈ lower.map Prod.fst ∨ k ∈ upper.map Prod.fst := by
  induction upper generalizing lower with
  | nil => rw [mergeEntries, List.map_nil, or_iff_left List.not_mem_nil]
  | cons e upper ih =>
      obtain ⟨⟨name, hname⟩, hupper⟩ := List.forall_mem_cons.mp hupper
      have hlay : k ∈ (lay lower e).map Prod.fst ↔ k ∈ lower.map Prod.fst ∨ k = e.1 := by
        rw [lay]
        split
        · next w hw =>
            -- an entry whose key is there already brings no new one
            have hmem : e.1 ∈ lower.map Prod.fst := by
              rw [hname] at hw ⊢
              exact find?_isSome_iff.mp (Option.isSome_of_eq_some hw)
            rw [map_fst_replace]
            exact (or_iff_left_of_imp fun h => h ▸ hmem).symm
        · rw [List.map_append, List.mem_append, List.map_singleton, List.mem_singleton]
      rw [mergeEntries_cons, ih hupper, hlay, List.map_cons, List.mem_cons, or_assoc]

/-! ## Merging trees -/

theorem merge_self (hu : Keyed u) : merge u u = u := by
  induction hu with
  | mapping entries strings keys values ih =>
      rw [merge_mapping]
      refine congrArg mapping (mergeEntries_eq_self fun e he => ⟨e.2, ?_, ih e he⟩)
      obtain ⟨name, hname⟩ := strings e he
      rw [hname]
      exact find?_of_mem (hname ▸ he) keys
  | other u h => exact merge_eq_right (.inl h)

/-- Laying the same tree over once more changes nothing. -/
theorem merge_merge (hu : Keyed u) (w : Yaml) : merge (merge w u) u = merge w u := by
  induction hu generalizing w with
  | mapping entries strings keys values ih =>
      by_cases hmapping : ∃ lower, w = .mapping lower
      · obtain ⟨lower, rfl⟩ := hmapping
        rw [merge_mapping, merge_mapping]
        refine congrArg mapping (mergeEntries_eq_self fun e he => ?_)
        obtain ⟨name, hname⟩ := strings e he
        have hfind : find? (.string name) entries = some e.2 := find?_of_mem (hname ▸ he) keys
        rw [hname]
        -- an entry is laid over what it has been merged into, or over itself
        refine ⟨_, find?_mergeEntries_of_mem hfind keys, ?_⟩
        cases find? (.string name) lower with
        | none => exact merge_self (values e he)
        | some w => exact ih e he w
      · rw [merge_eq_right (.inr (not_exists.mp hmapping))]
        exact merge_self (.mapping entries strings keys values)
  | other u h => rw [merge_eq_right (.inl h), merge_eq_right (.inl h)]

theorem keyed_replace (h : Keyed (.mapping lower)) (k : Yaml) (hv : Keyed v) :
    Keyed (.mapping (replace k v lower)) := by
  refine .mapping _ (fun e he => ?_) (by rw [map_fst_replace]; exact h.nodup) fun e he => ?_
  · have hkey := List.mem_map_of_mem (f := Prod.fst) he
    rw [map_fst_replace] at hkey
    obtain ⟨e', he', heq⟩ := List.mem_map.mp hkey
    rw [← heq]
    exact h.strings e' he'
  · rcases mem_replace he with hmem | heq
    · exact h.values e hmem
    · rw [heq]
      exact hv

theorem keyed_concat (h : Keyed (.mapping lower)) (hnone : find? (.string name) lower = none)
    (hv : Keyed v) : Keyed (.mapping (lower ++ [(.string name, v)])) := by
  refine .mapping _ (fun e he => ?_) ?_ fun e he => ?_
  · rcases List.mem_append.mp he with hmem | hmem
    · exact h.strings e hmem
    · exact ⟨name, by rw [List.mem_singleton.mp hmem]⟩
  · have hnew : .string name ∉ lower.map Prod.fst := by
      rw [← find?_isSome_iff, hnone]
      exact Bool.false_ne_true
    rw [List.map_append, List.nodup_append]
    refine ⟨h.nodup, List.pairwise_singleton _ _, fun k hk l hl heq => hnew ?_⟩
    rw [List.map_singleton, List.mem_singleton] at hl
    rwa [heq, hl] at hk
  · rcases List.mem_append.mp he with hmem | hmem
    · exact h.values e hmem
    · rw [List.mem_singleton.mp hmem]
      exact hv

/-- An entry with a string as its key keeps the keys distinct when it is laid over others. -/
theorem keyed_lay (h : Keyed (.mapping lower)) (name : String) (hv : Keyed v)
    (hmerge : ∀ w, Keyed w → Keyed (merge w v)) :
    Keyed (.mapping (lay lower (.string name, v))) := by
  rw [lay]
  split
  · next w hw => exact keyed_replace h _ (hmerge w (h.of_find? hw))
  · next hnone => exact keyed_concat h hnone hv

/-- Merged trees have different strings as keys again. -/
theorem Keyed.merge (hu : Keyed u) (hw : Keyed w) : Keyed (merge w u) := by
  induction hu generalizing w with
  | mapping entries strings keys values ih =>
      by_cases hmapping : ∃ lower, w = .mapping lower
      · obtain ⟨lower, rfl⟩ := hmapping
        rw [merge_mapping]
        -- each entry that is laid over keeps the keys of the mapping distinct
        clear keys
        induction entries generalizing lower with
        | nil =>
            rw [mergeEntries]
            exact hw
        | cons e entries ihentries =>
            obtain ⟨_, v⟩ := e
            obtain ⟨⟨name, rfl⟩, hstrings⟩ := List.forall_mem_cons.mp strings
            obtain ⟨hv, hvalues⟩ := List.forall_mem_cons.mp values
            obtain ⟨hmerge, hih⟩ := List.forall_mem_cons.mp ih
            rw [mergeEntries_cons]
            exact ihentries hstrings hvalues hih _ (keyed_lay hw name hv fun w hw => hmerge hw)
      · rw [merge_eq_right (.inr (not_exists.mp hmapping))]
        exact .mapping entries strings keys values
  | other u h =>
      rw [merge_eq_right (.inl h)]
      exact .other u h

end Trees

/-- What merged trees have at a path. A value of the upper tree that is no mapping is there; where
both have a mapping, there is a mapping with the keys of both; where only the upper one has a
mapping, it is there as it is; and where the upper one has nothing, with nothing but mappings on
the way, there is what the lower one has. Laying the upper tree over once more changes nothing. -/
theorem merge_paths {lower upper : List (Yaml × Yaml)} (hlower : Keyed (.mapping lower))
    (hupper : Keyed (.mapping upper)) :
    let merged := merge (.mapping lower) (.mapping upper)
    Keyed merged ∧ merge merged (.mapping upper) = merged ∧ ∀ path,
      (∀ v, at? path (.mapping upper) = some v → (∀ entries, v ≠ .mapping entries) →
        at? path merged = some v) ∧
      (∀ ls us, at? path (.mapping lower) = some (.mapping ls) →
        at? path (.mapping upper) = some (.mapping us) →
        ∃ ms, at? path merged = some (.mapping ms) ∧
          ∀ k, k ∈ ms.map Prod.fst ↔ k ∈ ls.map Prod.fst ∨ k ∈ us.map Prod.fst) ∧
      (∀ us, at? path (.mapping upper) = some (.mapping us) →
        (∀ ls, at? path (.mapping lower) ≠ some (.mapping ls)) →
        at? path merged = some (.mapping us)) ∧
      (at? path (.mapping upper) = none →
        (∀ before v, before <+: path → at? before (.mapping upper) = some v →
          ∃ entries, v = .mapping entries) →
        at? path merged = at? path (.mapping lower)) := by
  intro merged
  refine ⟨hupper.merge hlower, merge_merge hupper _, fun path =>
    ⟨fun v hv hother => at?_merge_of_replaced hupper hv (.inl hother),
      fun ls us hls hus => ⟨_, at?_merge_of_mappings hupper hus hls, fun k => ?_⟩,
      fun us hus hls => at?_merge_of_replaced hupper hus (.inr hls),
      at?_merge_of_absent hupper⟩⟩
  exact mem_keys_mergeEntries (hupper.of_at? hus).strings

section Examples

/-- A mapping of strings to scalars. -/
def scalars (entries : List (String × Int)) : Yaml :=
  .mapping (entries.map fun e => (.string e.1, .int e.2))

theorem keyed_scalars {entries : List (String × Int)} (h : (entries.map Prod.fst).Nodup) :
    Keyed (scalars entries) := by
  refine .mapping _ (fun e he => ?_) ?_ fun e he => ?_
  · obtain ⟨e, -, rfl⟩ := List.mem_map.mp he
    exact ⟨e.1, rfl⟩
  · rw [List.map_map]
    exact List.pairwise_map.mpr
      ((List.pairwise_map.mp h).imp fun hne heq => hne (string.inj heq))
  · obtain ⟨e, -, rfl⟩ := List.mem_map.mp he
    exact .other _ fun _ h => nomatch h

/-- A tree with two sections. -/
def sections (exchange resilience : Yaml) : List (Yaml × Yaml) :=
  [(.string "exchange", exchange), (.string "resilience", resilience)]

theorem keyed_sections {exchange resilience : Yaml} (hexchange : Keyed exchange)
    (hresilience : Keyed resilience) : Keyed (.mapping (sections exchange resilience)) :=
  .mapping _ (by simp [sections]) (by simp [sections]) (by simp [sections, *])

/-- A section that both have as a mapping is merged, and one that is a scalar below is replaced. -/
theorem merge_paths_sections :
    let lower := sections (scalars [("call_timeout_ms", 100), ("retries", 2)]) (.int 7)
    let upper := sections (scalars [("call_timeout_ms", 5)]) (scalars [("call_timeout_ms", 9)])
    let merged := merge (.mapping lower) (.mapping upper)
    (Keyed (.mapping lower) ∧ Keyed (.mapping upper)) ∧ Keyed merged ∧
      merge merged (.mapping upper) = merged ∧
      at? ["exchange", "call_timeout_ms"] merged = some (.int 5) ∧
      at? ["exchange", "retries"] merged = some (.int 2) ∧
      at? ["resilience"] merged = some (scalars [("call_timeout_ms", 9)]) := by
  intro lower upper merged
  have hlower : Keyed (.mapping lower) :=
    keyed_sections (keyed_scalars (by decide)) (.other _ fun _ h => nomatch h)
  have hupper : Keyed (.mapping upper) :=
    keyed_sections (keyed_scalars (by decide)) (keyed_scalars (by decide))
  obtain ⟨hmerged, hagain, hpaths⟩ := merge_paths hlower hupper
  refine ⟨⟨hlower, hupper⟩, hmerged, hagain, ?_, ?_, ?_⟩
  · exact (hpaths ["exchange", "call_timeout_ms"]).1 (.int 5) rfl fun _ h => nomatch h
  · refine (hpaths ["exchange", "retries"]).2.2.2 rfl fun before v hbefore hv => ?_
    simp only [List.prefix_cons_iff, List.prefix_nil] at hbefore
    rcases hbefore with rfl | ⟨_, rfl, rfl | ⟨_, rfl, rfl⟩⟩
    · exact ⟨_, (Option.some.inj hv).symm⟩
    · exact ⟨_, (Option.some.inj hv).symm⟩
    · cases hv
  · exact (hpaths ["resilience"]).2.2.1 _ rfl fun _ h => nomatch h

end Examples

end ServiceBus.Yaml
