set_option autoImplicit false

/-! # Numerals of a fixed width

Identifiers and points in time are written with a fixed number of digits. `digits` writes a
number that way and `value` reads digits back; within the range of the width the two are
inverse. Single digits are the characters `0` to `9` and `a` to `f`; capitals are read too. -/

namespace ServiceBus.Text

/-- The last `w` digits of `n` in base `b`, the most significant first. -/
def digits (b : Nat) : Nat → Nat → List Nat
  | 0, _ => []
  | w + 1, n => digits b w (n / b) ++ [n % b]

/-- The number that the digits `ds` stand for in base `b`. -/
def value (b : Nat) (ds : List Nat) : Nat := ds.foldl (fun n d => n * b + d) 0

/-- The digit that a character stands for, up to the digit fifteen. -/
def digit? (c : Char) : Option Nat :=
  if '0' ≤ c ∧ c ≤ '9' then some (c.toNat - 48)
  else if 'a' ≤ c ∧ c ≤ 'f' then some (c.toNat - 87)
  else if 'A' ≤ c ∧ c ≤ 'F' then some (c.toNat - 55)
  else none

/-- The digits of base `b` that the characters stand for, when all of them do. -/
def digits? (b : Nat) : List Char → Option (List Nat)
  | [] => some []
  | c :: s =>
      match digit? c with
      | some d => if d < b then (digits? b s).map (d :: ·) else none
      | none => none

/-- The number written by the characters of `s`, when each is a digit of base `b`. -/
def number? (b : Nat) (s : List Char) : Option Nat := (digits? b s).map (value b)

/-- `n` with exactly `w` digits in base `b`. -/
def padded (b w n : Nat) : List Char := (digits b w n).map Nat.digitChar

/-- A decimal digit. -/
def isDigit (c : Char) : Bool := '0' ≤ c && c ≤ '9'

/-! ## Writing and reading back -/

theorem length_digits (b w n : Nat) : (digits b w n).length = w := by
  induction w generalizing n with
  | zero => rfl
  | succ w ih => simp [digits, ih]

theorem value_digits {b w n : Nat} (h : n < Nat.pow b w) : value b (digits b w n) = n := by
  induction w generalizing n with
  | zero =>
      have h0 : n = 0 := Nat.lt_one_iff.mp h
      subst h0
      rfl
  | succ w ih =>
      have hq : n / b < Nat.pow b w := by
        have hw : n < b * Nat.pow b w := by
          rw [Nat.mul_comm]
          exact h
        exact Nat.div_lt_of_lt_mul hw
      have hv := ih hq
      simp only [value] at hv
      simp only [digits, value, List.foldl_append, hv, List.foldl_cons, List.foldl_nil]
      rw [Nat.mul_comm]
      exact Nat.div_add_mod n b

theorem lt_of_mem_digits {b w n d : Nat} (hb : 0 < b) (h : d ∈ digits b w n) : d < b := by
  induction w generalizing n with
  | zero => simp [digits] at h
  | succ w ih =>
      simp only [digits, List.mem_append, List.mem_singleton] at h
      rcases h with h | h
      · exact ih h
      · exact h ▸ Nat.mod_lt n hb

theorem digit?_digitChar {d : Nat} (h : d < 16) : digit? (Nat.digitChar d) = some d := by
  revert h
  revert d
  decide

theorem length_padded (b w n : Nat) : (padded b w n).length = w := by
  simp [padded, length_digits]

theorem digits?_map_digitChar {b : Nat} (hb : b ≤ 16) (ds : List Nat) (h : ∀ d ∈ ds, d < b) :
    digits? b (ds.map Nat.digitChar) = some ds := by
  induction ds with
  | nil => rfl
  | cons d ds ih =>
      have hd : d < b := h d (by simp)
      have hds := ih fun e he => h e (by simp [he])
      simp [digits?, digit?_digitChar (Nat.lt_of_lt_of_le hd hb), hd, hds]

theorem number?_padded {b w n : Nat} (hb : 0 < b) (hb' : b ≤ 16) (h : n < Nat.pow b w) :
    number? b (padded b w n) = some n := by
  rw [number?, padded, digits?_map_digitChar hb' _ fun d hd => lt_of_mem_digits hb hd]
  simp [value_digits h]

end ServiceBus.Text
