import ServiceBus.Yaml.Merge

set_option autoImplicit false

/-! # What merging does to what is under a name

Keys are compared with their tags, but records look through them: the name of a key is the text
below its tags (`name?`), and several keys of a mapping may have the same one. What a mapping has
under a name (`named`) stays as it is when entries with other names are laid over it
(`named_mergeEntries_of_absent`). Where there is one value at most under a name, an entry with this
name takes its place, unless both are mappings (`named_mergeEntries_of_replaced`); then what the
upper one does not have is as in the lower one (`path?_mergeEntries`). -/

namespace ServiceBus.Yaml

/-- The name of a key. -/
def name? (k : Yaml) : Option String :=
  match k.untagged with
  | .string name => some name
  | _ => none

/-- What is under a name. -/
def named (name : String) (entries : List (Yaml × Yaml)) : List Yaml :=
  entries.filterMap fun e => if e.1.name? = some name then some e.2 else none

@[simp]
theorem name?_string (name : String) : (Yaml.string name).name? = some name := rfl

@[simp]
theorem name?_tagged (tag : String) (k : Yaml) : (Yaml.tagged tag k).name? = k.name? := rfl

/-- Keys that are the same have the same name. -/
theorem name?_eq_of_same {k l : Yaml} (h : same k l = true) : k.name? = l.name? := by
  induction k using Yaml.untagged.induct generalizing l with
  | case1 tag k ih =>
      cases l with
      | tagged tag' l =>
          rw [same, Bool.and_eq_true] at h
          rw [name?_tagged, name?_tagged]
          exact ih h.2
      | _ => cases h
  | case2 k hk =>
      cases k with
      | tagged tag k => exact absurd rfl (hk tag k)
      | string name =>
          cases l with
          | string name' =>
              rw [same, beq_iff_eq] at h
              rw [h]
          | _ => cases h
      | _ => cases l <;> first | rfl | cases h

theorem same_string_iff {name : String} {k : Yaml} :
    same (.string name) k = true ↔ k = .string name := by
  cases k with
  | string name' => rw [same, beq_iff_eq, string.injEq, eq_comm]
  | _ => exact iff_of_false (fun h => nomatch h) fun h => nomatch h

/-! ## What is under a name -/

section Named

variable {name : String} {k v w : Yaml} {lower upper : List (Yaml × Yaml)}

theorem named_cons (name : String) (e : Yaml × Yaml) (entries : List (Yaml × Yaml)) :
    named name (e :: entries) =
      if e.1.name? = some name then e.2 :: named name entries else named name entries := by
  by_cases h : e.1.name? = some name <;> simp [named, h]

theorem find?_eq_none_iff : find? k lower = none ↔ ∀ e ∈ lower, same k e.1 = false := by
  induction lower with
  | nil => exact iff_of_true rfl (List.forall_mem_nil _)
  | cons e lower ih =>
      obtain ⟨l, w⟩ := e
      rw [find?, List.forall_mem_cons]
      cases hsame : same k l with
      | true => exact iff_of_false (Option.some_ne_none w) fun h => Bool.noConfusion h.1
      | false => exact ih.trans (and_iff_right rfl).symm

theorem named_append (name : String) (lower upper : List (Yaml × Yaml)) :
    named name (lower ++ upper) = named name lower ++ named name upper :=
  List.filterMap_append

theorem named_singleton_of_eq (h : k.name? = some name) (v : Yaml) : named name [(k, v)] = [v] := by
  rw [named_cons, if_pos h]
  rfl

theorem named_singleton_of_ne (h : k.name? ≠ some name) (v : Yaml) : named name [(k, v)] = [] := by
  rw [named_cons, if_neg h]
  rfl

theorem named_replace_of_ne (h : k.name? ≠ some name) (v : Yaml) (lower : List (Yaml × Yaml)) :
    named name (replace k v lower) = named name lower := by
  induction lower with
  | nil => rfl
  | cons e lower ih =>
      obtain ⟨l, w⟩ := e
      rw [replace]
      split
      · next hsame =>
          rw [name?_eq_of_same hsame] at h
          rw [named_cons, named_cons, if_neg h, if_neg h]
      · rw [named_cons, named_cons, ih]

/-- Another value under a key takes the place of the one that is there. -/
theorem named_replace_of_eq (h : k.name? = some name) (hk : find? k lower = some w) (v : Yaml) :
    ∃ before after, named name lower = before ++ w :: after ∧
      named name (replace k v lower) = before ++ v :: after := by
  induction lower with
  | nil => cases hk
  | cons e lower ih =>
      obtain ⟨l, u⟩ := e
      rw [find?] at hk
      rw [replace]
      split at hk
      · next hsame =>
          cases hk
          rw [name?_eq_of_same hsame] at h
          rw [if_pos hsame, named_cons, named_cons, if_pos h, if_pos h]
          exact ⟨[], _, rfl, rfl⟩
      · next hsame =>
          obtain ⟨before, after, hlower, hreplace⟩ := ih hk
          rw [if_neg hsame, named_cons, named_cons, hlower, hreplace]
          split
          · exact ⟨u :: before, after, rfl, rfl⟩
          · exact ⟨before, after, rfl, rfl⟩

/-! ## Laying one entry over others -/

/-- Lay one entry over others. -/
def lay (lower : List (Yaml × Yaml)) (e : Yaml × Yaml) : List (Yaml × Yaml) :=
  match find? e.1 lower with
  | some w => replace e.1 (merge w e.2) lower
  | none => lower ++ [e]

theorem mergeEntries_eq_foldl (lower upper : List (Yaml × Yaml)) :
    mergeEntries lower upper = upper.foldl lay lower := by
  induction upper generalizing lower with
  | nil => rw [mergeEntries, List.foldl_nil]
  | cons e upper ih =>
      rw [mergeEntries, List.foldl_cons, ih]
      rfl

theorem named_lay_of_ne (h : k.name? ≠ some name) :
    named name (lay lower (k, v)) = named name lower := by
  rw [lay]
  split
  · exact named_replace_of_ne h _ lower
  · rw [named_append, named_singleton_of_ne h, List.append_nil]

/-- An entry is merged with what it is laid over, or it is appended. -/
theorem named_lay_of_eq (h : k.name? = some name) :
    (∃ before w after, named name lower = before ++ w :: after ∧
      named name (lay lower (k, v)) = before ++ merge w v :: after) ∨
      named name (lay lower (k, v)) = named name lower ++ [v] := by
  rw [lay]
  split
  · next w hw =>
      obtain ⟨before, after, hlower, hreplace⟩ := named_replace_of_eq h hw (merge w v)
      exact .inl ⟨before, w, after, hlower, hreplace⟩
  · exact .inr (by rw [named_append, named_singleton_of_eq h])

theorem length_named_lay (name : String) (lower : List (Yaml × Yaml)) (e : Yaml × Yaml) :
    (named name lower).length ≤ (named name (lay lower e)).length := by
  obtain ⟨k, v⟩ := e
  by_cases h : k.name? = some name
  · obtain ⟨before, w, after, hlower, hlay⟩ | hlay := named_lay_of_eq h
    · rw [hlower, hlay, List.length_append, List.length_append]
      exact Nat.le_refl _
    · rw [hlay, List.length_append]
      exact Nat.le_add_right _ _
  · exact Nat.le_of_eq (congrArg List.length (named_lay_of_ne h).symm)

/-- Where there is one value at most under a name, an entry with this name is merged with it, or it
is the only one. -/
theorem named_lay_of_one (h : k.name? = some name)
    (hone : (named name (lay lower (k, v))).length ≤ 1) :
    (∃ w, named name lower = [w] ∧ named name (lay lower (k, v)) = [merge w v]) ∨
      named name lower = [] ∧ named name (lay lower (k, v)) = [v] := by
  obtain ⟨before, w, after, hlower, hlay⟩ | hlay := named_lay_of_eq h
  · rw [hlay, List.length_append, List.length_cons] at hone
    have hbefore : before = [] := List.eq_nil_of_length_eq_zero (by omega)
    have hafter : after = [] := List.eq_nil_of_length_eq_zero (by omega)
    subst hbefore hafter
    exact .inl ⟨w, hlower, hlay⟩
  · rw [hlay, List.length_append] at hone
    have hlower : named name lower = [] :=
      List.eq_nil_of_length_eq_zero (Nat.le_zero.mp (Nat.le_of_succ_le_succ hone))
    rw [hlower] at hlay
    exact .inr ⟨hlower, hlay⟩

theorem merge_mapping (lower upper : List (Yaml × Yaml)) :
    merge (.mapping lower) (.mapping upper) = .mapping (mergeEntries lower upper) := by
  rw [merge]

/-- Only mappings are merged. -/
theorem merge_eq_right (h : (∀ entries, w ≠ .mapping entries) ∨ ∀ entries, v ≠ .mapping entries) :
    merge v w = w := by
  cases w with
  | mapping upper =>
      cases v with
      | mapping lower => exact (h.elim (fun h => h upper rfl) fun h => h lower rfl).elim
      | _ => rw [merge]; exact fun _ h => nomatch h
  | _ => rw [merge]; exact fun _ h => nomatch h

/-! ## Merging entries -/

theorem length_named_mergeEntries (name : String) (lower upper : List (Yaml × Yaml)) :
    (named name lower).length ≤ (named name (mergeEntries lower upper)).length := by
  rw [mergeEntries_eq_foldl]
  induction upper generalizing lower with
  | nil => exact Nat.le_refl _
  | cons e upper ih => exact Nat.le_trans (length_named_lay name lower e) (ih (lay lower e))

theorem mergeEntries_cons (lower : List (Yaml × Yaml)) (e : Yaml × Yaml)
    (upper : List (Yaml × Yaml)) :
    mergeEntries lower (e :: upper) = mergeEntries (lay lower e) upper := by
  rw [mergeEntries_eq_foldl, mergeEntries_eq_foldl, List.foldl_cons]

/-- What is under a name stays as it is if there is nothing under it in what is laid over. -/
theorem named_mergeEntries_of_absent (h : named name upper = []) :
    named name (mergeEntries lower upper) = named name lower := by
  induction upper generalizing lower with
  | nil => rw [mergeEntries]
  | cons e upper ih =>
      obtain ⟨k, v⟩ := e
      rw [named_cons] at h
      split at h
      · cases h
      · next hk => rw [mergeEntries_cons, ih h, named_lay_of_ne hk]

/-- A value that is not merged takes the place of what is under its name. -/
theorem named_mergeEntries_of_replaced
    (hone : (named name (mergeEntries lower upper)).length ≤ 1) (hw : named name upper = [w])
    (h : (∀ entries, w ≠ .mapping entries) ∨
      ∀ v ∈ named name lower, ∀ entries, v ≠ .mapping entries) :
    named name (mergeEntries lower upper) = [w] := by
  induction upper generalizing lower with
  | nil => cases hw
  | cons e upper ih =>
      obtain ⟨k, v⟩ := e
      rw [mergeEntries_cons] at hone ⊢
      rw [named_cons] at hw
      split at hw
      · next hk =>
          obtain ⟨rfl, hupper⟩ := List.cons.inj hw
          rw [named_mergeEntries_of_absent hupper] at hone ⊢
          obtain ⟨b, hlower, hlay⟩ | ⟨-, hlay⟩ := named_lay_of_one hk hone
          · rw [hlower, List.forall_mem_singleton] at h
            rw [hlay, merge_eq_right h]
          · exact hlay
      · next hk =>
          refine ih hone hw ?_
          rw [named_lay_of_ne hk]
          exact h

/-- The entries of a mapping; its tags are looked through. -/
def entries (v : Yaml) : List (Yaml × Yaml) :=
  match v.untagged with
  | .mapping entries => entries
  | _ => []

/-- What a mapping has under a name and, in the mapping that is there, under another one. -/
def path? (outer inner : String) (lower : List (Yaml × Yaml)) : Option Yaml :=
  (named outer lower).head?.bind fun v => (named inner v.entries).head?

theorem path?_mergeEntries {inner : String}
    (hone : (named name (mergeEntries lower upper)).length ≤ 1)
    (hlower : ∀ v ∈ named name lower, ∃ entries, v = .mapping entries)
    (hupper : ∀ v ∈ named name upper, ∃ entries, v = .mapping entries ∧ named inner entries = []) :
    path? name inner (mergeEntries lower upper) = path? name inner lower := by
  induction upper generalizing lower with
  | nil => rw [mergeEntries]
  | cons e upper ih =>
      obtain ⟨k, v⟩ := e
      rw [mergeEntries_cons] at hone ⊢
      rw [named_cons] at hupper
      split at hupper
      · next hk =>
          obtain ⟨⟨us, rfl, hus⟩, hrest⟩ := List.forall_mem_cons.mp hupper
          have hone' := Nat.le_trans (length_named_mergeEntries name _ upper) hone
          obtain ⟨b, hb, hlay⟩ | ⟨hnil, hlay⟩ := named_lay_of_one hk hone'
          · rw [hb, List.forall_mem_singleton] at hlower
            obtain ⟨bs, rfl⟩ := hlower
            rw [merge_mapping] at hlay
            rw [ih hone ?_ hrest, path?, path?, hlay, hb]
            · show (named inner (mergeEntries bs us)).head? = (named inner bs).head?
              rw [named_mergeEntries_of_absent hus]
            · rw [hlay, List.forall_mem_singleton]
              exact ⟨_, rfl⟩
          · rw [ih hone ?_ hrest, path?, path?, hlay, hnil]
            · exact congrArg List.head? hus
            · rw [hlay, List.forall_mem_singleton]
              exact ⟨_, rfl⟩
      · next hk =>
          have hlay : named name (lay lower (k, v)) = named name lower := named_lay_of_ne hk
          rw [ih hone (by rw [hlay]; exact hlower) hupper, path?, path?, hlay]

/-! ## Discarding entries -/

/-- Discarding an entry takes out one whose key is the same, if there is any. -/
theorem discard_cases (k : Yaml) (lower : List (Yaml × Yaml)) :
    (discard k lower = lower ∧ ∀ e ∈ lower, same k e.1 = false) ∨
      ∃ e, same k e.1 = true ∧ lower.Perm (e :: discard k lower) := by
  induction lower with
  | nil => exact .inl ⟨rfl, List.forall_mem_nil _⟩
  | cons e lower ih =>
      obtain ⟨l, w⟩ := e
      rw [discard]
      split
      · next hsame =>
          refine .inr ⟨(l, w), hsame, .cons _ ?_⟩
          split
          · next last hlast =>
              obtain ⟨front, rfl⟩ := List.getLast?_eq_some_iff.mp hlast
              rw [List.dropLast_concat]
              exact List.perm_append_comm
          · next hlast => rw [List.getLast?_eq_none_iff.mp hlast]
      · next hsame =>
          obtain ⟨heq, hnone⟩ | ⟨e, hsame, hperm⟩ := ih
          · refine .inl ⟨by rw [heq], List.forall_mem_cons.mpr ⟨?_, hnone⟩⟩
            exact Bool.eq_false_iff.mpr hsame
          · exact .inr ⟨e, hsame, (hperm.cons _).trans (.swap _ _ _)⟩

end Named

end ServiceBus.Yaml
