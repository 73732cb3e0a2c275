set_option autoImplicit false

/-! # Searching and replacing in text

Text is worked on as a list of characters. The three notions of the file are a mark at the
start of a text (`after?`), the first occurrence of a mark (`splitOnce?`), and the
replacement of every occurrence, from left to right and without overlap (`replaceAll`). -/

namespace ServiceBus.Text

/-- What follows the mark `m` when the text starts with it. -/
def after? : List Char → List Char → Option (List Char)
  | [], s => some s
  | _ :: _, [] => none
  | c :: m, d :: s => if c = d then after? m s else none

/-- The text before and the text after the first occurrence of the mark `m`. -/
def splitOnce? (m : List Char) : List Char → Option (List Char × List Char)
  | [] => (after? m []).map fun rest => ([], rest)
  | c :: s =>
      match after? m (c :: s) with
      | some rest => some ([], rest)
      | none => (splitOnce? m s).map fun p => (c :: p.1, p.2)

/-- Whether the mark `m` occurs anywhere in the text. -/
def occursIn (m : List Char) : List Char → Bool
  | [] => (after? m []).isSome
  | c :: s => (after? m (c :: s)).isSome || occursIn m s

/-- `replaceFrom m r k s` skips `k` characters of `s`, which belong to a mark that has been
replaced already, and then replaces every mark `m` by `r`. -/
def replaceFrom (m r : List Char) : Nat → List Char → List Char
  | _, [] => []
  | k + 1, _ :: s => replaceFrom m r k s
  | 0, c :: s =>
      if (after? m (c :: s)).isSome then r ++ replaceFrom m r (m.length - 1) s
      else c :: replaceFrom m r 0 s

/-- Every occurrence of the mark `m`, from left to right, replaced by `r`. -/
def replaceAll (m r s : List Char) : List Char := replaceFrom m r 0 s

/-! ## Laws of the search -/

theorem after?_eq_some_iff (m s rest : List Char) : after? m s = some rest ↔ s = m ++ rest := by
  induction m generalizing s with
  | nil => simp [after?]
  | cons c m ih =>
      cases s with
      | nil => simp [after?]
      | cons d s =>
          by_cases h : c = d
          · subst h
            simp [after?, ih]
          · have h' : ¬ d = c := fun e => h e.symm
            simp [after?, h, h']

theorem after?_append (m rest : List Char) : after? m (m ++ rest) = some rest :=
  (after?_eq_some_iff m _ rest).2 rfl

theorem occursIn_eq_isSome (m s : List Char) : occursIn m s = (splitOnce? m s).isSome := by
  induction s with
  | nil => simp [occursIn, splitOnce?]
  | cons c s ih =>
      simp only [occursIn, splitOnce?, ih]
      cases after? m (c :: s) <;> simp

end ServiceBus.Text
