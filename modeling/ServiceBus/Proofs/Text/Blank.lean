import ServiceBus.Text.Blank

set_option autoImplicit false

/-! # What trimming leaves

A text is made up of what is left of it when it is trimmed and of the blanks around that. There is
only one way to cut it up so that no blank is left at the ends (`trim_eq_iff`). -/

namespace ServiceBus.Text

/-- The text neither begins nor ends with a blank. -/
def Trimmed (s : List Char) : Prop :=
  (∀ c ∈ s.head?, isBlank c = false) ∧ ∀ c ∈ s.getLast?, isBlank c = false

theorem trimStart_append {left : List Char} (h : ∀ c ∈ left, isBlank c = true) (s : List Char) :
    trimStart (left ++ s) = trimStart s :=
  List.dropWhile_append_of_pos h

theorem trimStart_eq_self {s : List Char} (h : ∀ c ∈ s.head?, isBlank c = false) :
    trimStart s = s := by
  cases s with
  | nil => rfl
  | cons c s => exact List.dropWhile_cons_of_neg (by rw [h c rfl]; decide)

/-- What is taken off the start of a text are blanks, and what is left does not begin with one. -/
theorem exists_append_trimStart (s : List Char) :
    ∃ left, (∀ c ∈ left, isBlank c = true) ∧ s = left ++ trimStart s ∧
      ∀ c ∈ (trimStart s).head?, isBlank c = false := by
  refine ⟨s.takeWhile isBlank, List.all_eq_true.mp List.all_takeWhile,
    List.takeWhile_append_dropWhile.symm, fun c hc => ?_⟩
  have hhead := List.head?_dropWhile_not isBlank s
  rw [← trimStart, hc] at hhead
  exact hhead

theorem trim_append {left t right : List Char} (ht : Trimmed t)
    (hleft : ∀ c ∈ left, isBlank c = true) (hright : ∀ c ∈ right, isBlank c = true) :
    trim (left ++ t ++ right) = t := by
  have hback : ∀ c ∈ right.reverse, isBlank c = true := fun c hc => hright c (List.mem_reverse.mp hc)
  rw [trim, List.append_assoc, trimStart_append hleft]
  cases t with
  | nil =>
      -- there is nothing but blanks
      have hnone : trimStart right = [] := by
        have hall := trimStart_append hright []
        rwa [List.append_nil] at hall
      rw [List.nil_append, hnone]
      rfl
  | cons c t =>
      have hhead : ∀ d ∈ (c :: t ++ right).head?, isBlank d = false := ht.1
      have hend : ∀ d ∈ (c :: t).reverse.head?, isBlank d = false := by
        rw [List.head?_reverse]
        exact ht.2
      rw [trimStart_eq_self hhead, List.reverse_append, trimStart_append hback,
        trimStart_eq_self hend, List.reverse_reverse]

/-- What trimming leaves is what stands between blanks and has none at its ends. -/
theorem trim_eq_iff {s t : List Char} :
    trim s = t ↔ Trimmed t ∧ ∃ left right, (∀ c ∈ left, isBlank c = true) ∧
      (∀ c ∈ right, isBlank c = true) ∧ s = left ++ t ++ right := by
  constructor
  · rintro rfl
    obtain ⟨left, hleft, hs, hhead⟩ := exists_append_trimStart s
    obtain ⟨back, hback, hback', hend⟩ := exists_append_trimStart (trimStart s).reverse
    have hstart : trimStart s = trim s ++ back.reverse := by
      have hreverse := congrArg List.reverse hback'
      rwa [List.reverse_reverse, List.reverse_append, ← trim] at hreverse
    refine ⟨⟨fun c hc => hhead c ?_, ?_⟩, left, back.reverse, hleft, ?_, ?_⟩
    · rw [hstart, List.head?_append, Option.mem_def.mp hc]
      rfl
    · rw [trim, ← List.head?_reverse, List.reverse_reverse]
      exact hend
    · exact fun c hc => hback c (List.mem_reverse.mp hc)
    · rw [List.append_assoc, ← hstart, ← hs]
  · rintro ⟨ht, left, right, hleft, hright, rfl⟩
    exact trim_append ht hleft hright

end ServiceBus.Text
