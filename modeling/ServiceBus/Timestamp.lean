set_option autoImplicit false

/-! # Points in time

A point in time is a day of the Gregorian calendar, a second of that day and a number of
nanoseconds, in Coordinated Universal Time. During a leap second the nanoseconds run past one
second, after the last second of a minute. -/

namespace ServiceBus

/-- Whether a year has a 29th of February. -/
def isLeapYear (year : Int) : Bool :=
  year % 4 == 0 && (year % 100 != 0 || year % 400 == 0)

/-- The number of days of a month, the months counted from one. -/
def daysInMonth (year : Int) (month : Nat) : Nat :=
  match month with
  | 2 => if isLeapYear year then 29 else 28
  | 4 | 6 | 9 | 11 => 30
  | _ => 31

/-- A day of the Gregorian calendar. -/
structure Date where
  year : Int
  month : Nat
  day : Nat
  month_pos : 1 ≤ month
  month_le : month ≤ 12
  day_pos : 1 ≤ day
  day_le : day ≤ daysInMonth year month
  deriving DecidableEq

namespace Date

/-- The day with the given numbers, if there is one. -/
def ofNumbers? (year : Int) (month day : Nat) : Option Date :=
  if h : (1 ≤ month ∧ month ≤ 12) ∧ 1 ≤ day ∧ day ≤ daysInMonth year month then
    some ⟨year, month, day, h.1.1, h.1.2, h.2.1, h.2.2⟩
  else none

theorem one_le_daysInMonth (year : Int) (month : Nat) : 1 ≤ daysInMonth year month := by
  unfold daysInMonth
  cases isLeapYear year <;> split <;> simp

theorem daysInMonth_le (year : Int) (month : Nat) : daysInMonth year month ≤ 31 := by
  unfold daysInMonth
  cases isLeapYear year <;> split <;> simp

/-- The day after. -/
def next (d : Date) : Date :=
  if h : d.day + 1 ≤ daysInMonth d.year d.month then
    { d with day := d.day + 1, day_pos := by omega, day_le := h }
  else if h : d.month + 1 ≤ 12 then
    { year := d.year, month := d.month + 1, day := 1, month_pos := by omega, month_le := h,
      day_pos := by omega, day_le := one_le_daysInMonth _ _ }
  else
    { year := d.year + 1, month := 1, day := 1, month_pos := by omega, month_le := by omega,
      day_pos := by omega, day_le := one_le_daysInMonth _ _ }

/-- The day before. -/
def previous (d : Date) : Date :=
  if h : 1 ≤ d.day - 1 then
    { d with day := d.day - 1, day_pos := h, day_le := Nat.le_trans (Nat.sub_le _ _) d.day_le }
  else if h : 1 ≤ d.month - 1 then
    { year := d.year, month := d.month - 1, day := daysInMonth d.year (d.month - 1),
      month_pos := h, month_le := Nat.le_trans (Nat.sub_le _ _) d.month_le,
      day_pos := one_le_daysInMonth _ _, day_le := Nat.le_refl _ }
  else
    { year := d.year - 1, month := 12, day := 31, month_pos := by omega, month_le := by omega,
      day_pos := by omega, day_le := by simp [daysInMonth] }

end Date

/-- A point in time to the nanosecond. -/
structure Timestamp where
  date : Date
  second : Nat
  nano : Nat
  second_lt : second < 86400
  nano_lt : nano < 2000000000
  leap : 1000000000 ≤ nano → second % 60 = 59
  deriving DecidableEq

namespace Timestamp

/-- The first second of a year. -/
def startOfYear (year : Int) : Timestamp where
  date := ⟨year, 1, 1, by omega, by omega, by omega, Date.one_le_daysInMonth _ _⟩
  second := 0
  nano := 0
  second_lt := by omega
  nano_lt := by omega
  leap := by omega

instance : Inhabited Timestamp := ⟨startOfYear 1970⟩

/-- A number that grows with time: the parts of the point, the larger parts first. -/
def rank (t : Timestamp) : Int :=
  (((t.date.year * 12 + t.date.month) * 31 + t.date.day) * 86400 + t.second) * 2000000000 + t.nano

instance : LE Timestamp := ⟨fun t u => t.rank ≤ u.rank⟩
instance : LT Timestamp := ⟨fun t u => t.rank < u.rank⟩
instance (t u : Timestamp) : Decidable (t ≤ u) := inferInstanceAs (Decidable (t.rank ≤ u.rank))
instance (t u : Timestamp) : Decidable (t < u) := inferInstanceAs (Decidable (t.rank < u.rank))

theorem le_refl (t : Timestamp) : t ≤ t := Int.le_refl _

theorem le_trans {t u v : Timestamp} (h : t ≤ u) (h' : u ≤ v) : t ≤ v := Int.le_trans h h'

theorem not_le {t u : Timestamp} : ¬ t ≤ u ↔ u < t := Int.not_le

theorem not_lt {t u : Timestamp} : ¬ t < u ↔ u ≤ t := Int.not_lt

/-- The point `n` nanoseconds after the start of the given year, for `n` within its first day. -/
def within (year : Int) (n : Nat) : Timestamp :=
  { startOfYear year with
    second := n / 1000000000 % 86400
    nano := n % 1000000000
    second_lt := Nat.mod_lt _ (by omega)
    nano_lt := Nat.lt_trans (Nat.mod_lt _ (by omega)) (by omega)
    leap := fun h => absurd (Nat.mod_lt n (by omega : 1000000000 > 0)) (Nat.not_lt.2 h) }

end Timestamp

end ServiceBus
