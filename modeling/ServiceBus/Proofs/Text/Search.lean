import ServiceBus.Text.Search

set_option autoImplicit false

/-! # Searching and replacing in a text made of pieces

A document is written as pieces one after another. The search for a mark passes over a piece in
which the mark does not occur, provided that the mark cannot begin in one piece and end in the
next. The marks of a document all begin with one character that they do not contain again, and
so do the pieces; `splitOnce?_skip` is the law for such marks.

A replacement works through the pieces in the same way: a mark is replaced
(`replaceAll_mark_append`), and a piece without the mark's first character stays as it is
(`replaceAll_append_of_not_mem`). -/

namespace ServiceBus.Text

/-! ## Marks at the start -/

theorem isSome_after?_iff (m s : List Char) : (after? m s).isSome = true ↔ m <+: s := by
  rw [Option.isSome_iff_exists]
  constructor
  · rintro ⟨rest, h⟩
    exact ⟨rest, ((after?_eq_some_iff m s rest).1 h).symm⟩
  · rintro ⟨rest, h⟩
    exact ⟨rest, (after?_eq_some_iff m s rest).2 h.symm⟩

theorem after?_eq_none_iff (m s : List Char) : after? m s = none ↔ ¬ m <+: s := by
  rw [← isSome_after?_iff, Bool.not_eq_true, Option.isSome_eq_false_iff, Option.isNone_iff_eq_none]

/-- Of two marks of which neither begins with the other, the one is not found where the other
stands. -/
theorem after?_append_eq_none {m p : List Char} (hm : ¬ m <+: p) (hp : ¬ p <+: m)
    (s : List Char) : after? m (p ++ s) = none := by
  rw [after?_eq_none_iff]
  intro h
  rcases List.prefix_or_prefix_of_prefix h (List.prefix_append p s) with h | h
  · exact hm h
  · exact hp h

/-- A mark that begins with another character than the text is not found at its start. -/
theorem after?_cons_of_ne {c d : Char} (h : c ≠ d) (m s : List Char) :
    after? (c :: m) (d :: s) = none := by
  simp [after?, h]

/-! ## Occurrences -/

theorem occursIn_iff (m s : List Char) : occursIn m s = true ↔ m <:+: s := by
  induction s with
  | nil => rw [occursIn, isSome_after?_iff, List.prefix_nil, List.infix_nil]
  | cons c s ih => rw [occursIn, Bool.or_eq_true, isSome_after?_iff, ih, List.infix_cons_iff]

/-- In front of a text, a piece without the mark's first character makes no difference. -/
theorem occursIn_append_of_not_mem {c : Char} {w : List Char} (hw : c ∉ w) (m s : List Char) :
    occursIn (c :: m) (w ++ s) = occursIn (c :: m) s := by
  induction w with
  | nil => rfl
  | cons d w ih =>
      rw [List.mem_cons, not_or] at hw
      rw [List.cons_append, occursIn, after?_cons_of_ne hw.1, ih hw.2]
      rfl

/-- A mark does not occur in a text without the mark's first character. -/
theorem occursIn_eq_false_of_not_mem {c : Char} {s : List Char} (hs : c ∉ s) (m : List Char) :
    occursIn (c :: m) s = false := by
  rw [Bool.eq_false_iff, Ne, occursIn_iff]
  intro h
  exact hs (h.subset List.mem_cons_self)

/-! ## The first occurrence -/

theorem splitOnce?_append_self (m s : List Char) : splitOnce? m (m ++ s) = some ([], s) := by
  have h : after? m (m ++ s) = some s := after?_append m s
  cases hs : m ++ s with
  | nil =>
      rw [hs] at h
      simp [splitOnce?, h]
  | cons c t =>
      rw [hs] at h
      simp [splitOnce?, h]

/-- A mark without a second occurrence of its first character does not begin in one piece and
end in the next, when the next piece begins with that character. -/
theorem prefix_of_prefix_append_cons {c : Char} {m p s : List Char} (hm : c ∉ m) (hp : p ≠ [])
    (h : c :: m <+: p ++ c :: s) : c :: m <+: p := by
  rcases List.prefix_or_prefix_of_prefix h (List.prefix_append p (c :: s)) with h' | ⟨u, hu⟩
  · exact h'
  · cases u with
    | nil => exact ⟨[], by simpa using hu.symm⟩
    | cons x u =>
        -- the mark goes on behind the first piece, so it contains its first character again
        rw [← hu, List.prefix_append_right_inj, List.cons_prefix_cons] at h
        obtain ⟨d, q, rfl⟩ := List.exists_cons_of_ne_nil hp
        have hq : m = q ++ x :: u := (List.cons.inj hu).2.symm
        exact absurd (by simp [hq, h.1]) hm

/-- The search passes over a piece without the mark. -/
theorem splitOnce?_skip {c : Char} {m p : List Char} (hm : c ∉ m)
    (hp : occursIn (c :: m) p = false) (s : List Char) :
    splitOnce? (c :: m) (p ++ c :: s) =
      (splitOnce? (c :: m) (c :: s)).map fun q => (p ++ q.1, q.2) := by
  induction p with
  | nil => cases h : splitOnce? (c :: m) (c :: s) <;> simp [h]
  | cons d p ih =>
      simp only [occursIn, Bool.or_eq_false_iff] at hp
      have hd : after? (c :: m) (d :: (p ++ c :: s)) = none := by
        rw [after?_eq_none_iff]
        intro h
        have hpre : c :: m <+: d :: p := prefix_of_prefix_append_cons hm (by simp) h
        rw [← isSome_after?_iff] at hpre
        simp [hpre] at hp
      rw [List.cons_append, splitOnce?, hd, ih hp.2]
      cases splitOnce? (c :: m) (c :: s) <;> rfl

/-! ## Replacing -/

/-- The characters of a mark that has been replaced are skipped. -/
theorem replaceFrom_length_append (m r w s : List Char) :
    replaceFrom m r w.length (w ++ s) = replaceAll m r s := by
  induction w with
  | nil => rfl
  | cons c w ih => exact ih

theorem replaceAll_mark_append (c : Char) (m r s : List Char) :
    replaceAll (c :: m) r (c :: m ++ s) = r ++ replaceAll (c :: m) r s := by
  have h : after? (c :: m) (c :: (m ++ s)) = some s := after?_append (c :: m) s
  rw [List.cons_append, replaceAll, replaceFrom, h]
  exact congrArg (r ++ ·) (replaceFrom_length_append (c :: m) r m s)

theorem replaceAll_cons_of_eq_none {m : List Char} {d : Char} {s : List Char}
    (h : after? m (d :: s) = none) (r : List Char) :
    replaceAll m r (d :: s) = d :: replaceAll m r s := by
  simp [replaceAll, replaceFrom, h]

theorem replaceAll_append_of_not_mem {c : Char} {w : List Char} (hw : c ∉ w) (m r s : List Char) :
    replaceAll (c :: m) r (w ++ s) = w ++ replaceAll (c :: m) r s := by
  induction w with
  | nil => rfl
  | cons d w ih =>
      have hd : c ≠ d := fun h => hw (by simp [h])
      have hw' : c ∉ w := fun h => hw (List.mem_cons_of_mem _ h)
      rw [List.cons_append, replaceAll_cons_of_eq_none (after?_cons_of_ne hd m _), ih hw',
        List.cons_append]

/-- A mark of one character is replaced character by character. -/
theorem replaceAll_singleton (c : Char) (r s : List Char) :
    replaceAll [c] r s = s.flatMap fun d => if d = c then r else [d] := by
  induction s with
  | nil => rfl
  | cons d s ih =>
      rw [List.flatMap_cons, ← ih]
      by_cases h : d = c
      · rw [if_pos h, h]
        exact replaceAll_mark_append c [] r s
      · have hn : after? [c] (d :: s) = none := after?_cons_of_ne (fun e => h e.symm) [] s
        rw [if_neg h, replaceAll_cons_of_eq_none hn]
        rfl

end ServiceBus.Text
