import ServiceBus.Timestamp.Rfc3339
import ServiceBus.Uuid

set_option autoImplicit false

/-! # Identifiers and times read back

What is written as text for an identifier is read as this identifier (`Uuid.ofText?_text`), and
what is written for a point in time as this point, if the year has four digits
(`Timestamp.ofText?_text`). The reader of times takes one field after the other, so there is one
equation for each of its readers: what the field was written as in front of any rest is read as the
field, and the rest is left. -/

namespace ServiceBus

namespace Text

/-! ## Digits -/

theorem mem_padded {b w n : Nat} {c : Char} (hb : 0 < b) (h : c ∈ padded b w n) :
    ∃ d < b, Nat.digitChar d = c := by
  obtain ⟨d, hd, rfl⟩ := List.mem_map.mp h
  exact ⟨d, lt_of_mem_digits hb hd, rfl⟩

theorem isDigit_of_mem_padded {w n : Nat} {c : Char} (h : c ∈ padded 10 w n) : isDigit c = true := by
  have hdigits : ∀ d < 10, isDigit (Nat.digitChar d) = true := by decide
  obtain ⟨d, hd, rfl⟩ := mem_padded (by decide) h
  exact hdigits d hd

/-- A text that begins with a digit. -/
theorem exists_padded_eq_cons {w : Nat} (hw : 0 < w) (n : Nat) :
    ∃ c cs, padded 10 w n = c :: cs ∧ isDigit c = true := by
  cases hp : padded 10 w n with
  | nil =>
      have hlength := length_padded 10 w n
      rw [hp] at hlength
      exact absurd hlength (Nat.ne_of_lt hw)
  | cons c cs => exact ⟨c, cs, rfl, isDigit_of_mem_padded (hp ▸ List.mem_cons_self)⟩

theorem isBlank_of_isDigit {c : Char} (h : isDigit c = true) : isBlank c = false := by
  have hrange : 48 ≤ c.toNat ∧ c.toNat ≤ 57 := by
    simpa [isDigit, Char.le_def, UInt32.le_iff_toNat_le] using h
  simp only [isBlank, Bool.or_eq_false_iff, Bool.and_eq_false_iff, decide_eq_false_iff_not,
    beq_eq_false_iff_ne]
  omega

theorem trimStart_cons {c : Char} (h : isBlank c = false) (s : List Char) :
    trimStart (c :: s) = c :: s :=
  List.dropWhile_cons_of_neg (by simp [h])

end Text

/-! ## Identifiers -/

namespace Uuid

open Text

theorem length_hyphenated {s : List Char} (h : s.length = 32) : (hyphenated s).length = 36 := by
  simp only [hyphenated, List.length_append, List.length_cons, List.length_take, List.length_drop]
  omega

/-- Taking the hyphens out of the groups leaves the digits. -/
theorem filter_hyphenated {s : List Char} (h : ∀ c ∈ s, c ≠ '-') :
    (hyphenated s).filter (· ≠ '-') = s := by
  have hkept : ∀ t : List Char, t ⊆ s → t.filter (· ≠ '-') = t := fun t ht =>
    List.filter_eq_self.mpr fun c hc => decide_eq_true (h c (ht hc))
  have htake : ∀ n m, ((s.drop n).take m).filter (· ≠ '-') = (s.drop n).take m :=
    fun n m => hkept _ fun _ hc => List.drop_subset _ _ (List.take_subset _ _ hc)
  have hgroup : ∀ n m, (s.drop n).take m ++ s.drop (n + m) = s.drop n := fun n m => by
    rw [← List.drop_drop, List.take_append_drop]
  have hfirst : s.take 8 ++ s.drop 8 = s := List.take_append_drop 8 s
  simp only [hyphenated, List.filter_append, List.filter_cons, htake,
    hkept _ (List.take_subset _ _), hkept _ (List.drop_subset _ _)]
  simp [hgroup, hfirst]

theorem unhyphenated?_hyphenated {s : List Char} (h : ∀ c ∈ s, c ≠ '-') :
    unhyphenated? (hyphenated s) = some s := by
  rw [unhyphenated?, filter_hyphenated h]
  exact if_pos rfl

/-- An identifier is read from the form in which it is written. -/
theorem ofText?_text (u : Uuid) : ofText? u.text = some u := by
  have hlength := length_hyphenated (length_padded 16 32 u.number)
  have hhyphen : ∀ c ∈ padded 16 32 u.number, c ≠ '-' := by
    have hdigits : ∀ d < 16, Nat.digitChar d ≠ '-' := by decide
    intro c hc
    obtain ⟨d, hd, rfl⟩ := mem_padded (by decide) hc
    exact hdigits d hd
  rw [ofText?, text, String.toList_ofList, hlength]
  show ofHyphenated? _ = _
  rw [ofHyphenated?, unhyphenated?_hyphenated hhyphen, Option.bind_some, ofDigits?,
    if_pos (length_padded 16 32 u.number), number?_padded (by decide) (by decide) u.number_lt]
  exact dif_pos u.number_lt

end Uuid

/-! ## Times -/

namespace Timestamp

open Text

/-- What is read behind a number does not go on with digits. -/
theorem readNumber_padded {most w n : Nat} (hw : 0 < w) (hmost : w ≤ most) (hn : n < Nat.pow 10 w)
    {rest : List Char} (hrest : (rest.take (most - w)).takeWhile isDigit = []) :
    readNumber most (padded 10 w n ++ rest) = some (n, rest) := by
  have hlength := length_padded 10 w n
  have htake : (padded 10 w n ++ rest).take most = padded 10 w n ++ rest.take (most - w) := by
    rw [List.take_append, hlength, List.take_of_length_le (by omega)]
  have hdigits : ((padded 10 w n ++ rest).take most).takeWhile isDigit = padded 10 w n := by
    rw [htake, List.takeWhile_append_of_pos fun c hc => isDigit_of_mem_padded hc, hrest,
      List.append_nil]
  have hne : (padded 10 w n).isEmpty = false := by
    rw [List.isEmpty_eq_false_iff]
    intro hnil
    rw [hnil] at hlength
    exact absurd hlength (Nat.ne_of_lt hw)
  rw [readNumber, hdigits, hne, number?_padded (by decide) (by decide) hn]
  show some (n, (padded 10 w n ++ rest).drop (padded 10 w n).length) = _
  rw [List.drop_left]

/-- A number in front of which there are no blanks. -/
theorem trimStart_padded {w : Nat} (hw : 0 < w) (n : Nat) (rest : List Char) :
    trimStart (padded 10 w n ++ rest) = padded 10 w n ++ rest := by
  obtain ⟨c, cs, hc, hdigit⟩ := exists_padded_eq_cons hw n
  rw [hc, List.cons_append, trimStart_cons (isBlank_of_isDigit hdigit)]

theorem readField_padded {n : Nat} (hn : n < 100) (rest : List Char) :
    readField (padded 10 2 n ++ rest) = some (n, rest) := by
  rw [readField, trimStart_padded (by decide),
    readNumber_padded (by decide) (Nat.le_refl 2) hn (by simp)]

theorem readYear_yearText {year : Int} (hyear : 0 ≤ year ∧ year ≤ 9999) (rest : List Char) :
    readYear (yearText year ++ rest) = some (year, rest) := by
  have hn : year.natAbs < 10000 := by omega
  obtain ⟨c, cs, hc, hdigit⟩ := exists_padded_eq_cons (w := 4) (by decide) year.natAbs
  have htrim := trimStart_padded (w := 4) (by decide) year.natAbs rest
  have hread : readNumber 4 (padded 10 4 year.natAbs ++ rest) = _ :=
    readNumber_padded (by decide) (Nat.le_refl 4) hn (by simp)
  have hminus : c ≠ '-' := by rintro rfl; cases hdigit
  have hplus : c ≠ '+' := by rintro rfl; cases hdigit
  rw [yearText, if_pos hyear, readYear, htrim]
  rw [hc, List.cons_append] at hread ⊢
  split
  · next heq => exact absurd (List.cons.inj heq).1 hminus
  · next heq => exact absurd (List.cons.inj heq).1 hplus
  · rw [hread, Option.map_some, Int.natAbs_of_nonneg hyear.1]

theorem readMark_cons {c : Char} (h : isBlank c = false) (rest : List Char) :
    readMark c (c :: rest) = some rest := by
  rw [readMark, trimStart_cons h]
  exact if_pos rfl

/-- The fraction is the last field, and a `Z` comes behind it. -/
theorem readFraction_padded {w n : Nat} (hw : 0 < w) (hw' : w ≤ 9) (hn : n < Nat.pow 10 w) :
    readFraction ('.' :: padded 10 w n ++ ['Z']) = some (n * Nat.pow 10 (9 - w), ['Z']) := by
  have hstop : (['Z'].take (9 - w)).takeWhile isDigit = [] := by
    cases 9 - w <;> rfl
  have hlength : (padded 10 w n ++ ['Z']).length - ['Z'].length = w := by
    rw [List.length_append, length_padded, Nat.add_sub_cancel]
  show (readNumber 9 (padded 10 w n ++ ['Z'])).map (fun p =>
    (p.1 * Nat.pow 10 (9 - ((padded 10 w n ++ ['Z']).length - p.2.length)),
      p.2.dropWhile isDigit)) = _
  rw [readNumber_padded hw hw' hn hstop, Option.map_some, hlength]
  rfl

theorem readFraction_fractionText {nano : Nat} (hnano : nano < 1000000000) :
    readFraction (fractionText nano ++ ['Z']) = some (nano, ['Z']) := by
  unfold fractionText
  split
  · next hzero =>
      rw [hzero]
      rfl
  · split
    · next hmilli =>
        have hlt : nano / 1000000 < Nat.pow 10 3 := Nat.div_lt_of_lt_mul hnano
        have hnano : nano / 1000000 * Nat.pow 10 (9 - 3) = nano :=
          Nat.div_mul_cancel (Nat.dvd_of_mod_eq_zero hmilli)
        rw [readFraction_padded (by decide) (by decide) hlt, hnano]
    · split
      · next hmicro =>
          have hlt : nano / 1000 < Nat.pow 10 6 := Nat.div_lt_of_lt_mul hnano
          have hnano : nano / 1000 * Nat.pow 10 (9 - 6) = nano :=
            Nat.div_mul_cancel (Nat.dvd_of_mod_eq_zero hmicro)
          rw [readFraction_padded (by decide) (by decide) hlt, hnano]
      · rw [readFraction_padded (by decide) (by decide) hnano]
        exact congrArg (fun n => some (n, ['Z'])) (Nat.mul_one nano)

theorem readOffset_utc : readOffset ['Z'] = some (0, []) := by decide

/-- The numbers of a day are those of this day. -/
theorem ofNumbers?_self (d : Date) : Date.ofNumbers? d.year d.month d.day = some d :=
  dif_pos ⟨⟨d.month_pos, d.month_le⟩, d.day_pos, d.day_le⟩

/-- A clock that shows the hour, the minute and the second of a point in time shows this point. A
leap second is shown as the second sixty. -/
theorem ofClock?_self (t : Timestamp) :
    ofClock? t.date (t.second / 3600) (t.second / 60 % 60)
      (t.second % 60 + t.nano / 1000000000) (t.nano % 1000000000) = some t := by
  obtain ⟨date, second, nano, hsecond, hnano, hleap⟩ := t
  dsimp only
  have hclock : second / 3600 < 24 ∧ second / 60 % 60 < 60 ∧
      second % 60 + nano / 1000000000 ≤ 60 ∧ nano % 1000000000 < 1000000000 := by
    omega
  rw [ofClock?, dif_pos hclock]
  congr 2
  · omega
  · split <;> omega

/-- Without an offset the clock shows the point itself. -/
theorem atOffset?_zero {t : Timestamp} (h : inCalendar t.date.year = true) :
    t.atOffset? 0 = some t := by
  have hsecond := t.second_lt
  unfold atOffset?
  have htotal : (t.second : Int) - 0 * 60 = t.second := by omega
  have hlt : ¬ (t.second : Int) < 0 := by omega
  have hle : ¬ 86400 ≤ (t.second : Int) := by omega
  have hmod : ((t.second : Int) % 86400).toNat = t.second := by omega
  simp only [htotal, if_neg hlt, if_neg hle, hmod, h, if_pos]
  exact dif_pos ⟨hsecond, trivial⟩

/-- The year of the point has four digits. -/
def FourDigitYear (t : Timestamp) : Prop := 0 ≤ t.date.year ∧ t.date.year ≤ 9999

instance (t : Timestamp) : Decidable t.FourDigitYear := inferInstanceAs (Decidable (_ ∧ _))

/-- What has been read is handed on to what reads next. -/
theorem bind_read {α β : Type} (a : α) (f : α → Option β) : (some a >>= f) = f a := rfl

theorem ofChars?_chars {t : Timestamp} (h : t.FourDigitYear) : ofChars? t.chars = some t := by
  have hday := Nat.le_trans t.date.day_le (Date.daysInMonth_le _ _)
  have hmonth := t.date.month_le
  have hsecond := t.second_lt
  have hnano := t.nano_lt
  have hcalendar : inCalendar t.date.year = true := by
    have hyear := h
    simp only [FourDigitYear] at hyear
    simp only [inCalendar, Bool.and_eq_true, decide_eq_true_eq]
    omega
  have hdash := readMark_cons (c := '-') (by decide)
  have hcolon := readMark_cons (c := ':') (by decide)
  have hmonthField := readField_padded (n := t.date.month) (by omega)
  have hdayField := readField_padded (n := t.date.day) (by omega)
  have hhour := readField_padded (n := t.second / 3600) (by omega)
  have hminute := readField_padded (n := t.second / 60 % 60) (by omega)
  have hclock := readField_padded (n := t.second % 60 + t.nano / 1000000000) (by omega)
  have hfraction := readFraction_fractionText (Nat.mod_lt t.nano (by decide : 0 < 1000000000))
  have hseparator : ¬ ('T' ≠ 'T' ∧ 'T' ≠ 't' ∧ 'T' ≠ ' ') := by decide
  have hend : trimStart ['Z'] = ['Z'] ∧ trimStart [] = [] := by decide
  unfold ofChars? chars
  simp only [List.append_assoc, List.cons_append]
  -- field after field is taken, and what is left after the offset is nothing
  rw [readYear_yearText h, bind_read, hdash, bind_read, hmonthField, bind_read, hdash, bind_read,
    hdayField, bind_read, List.head?_cons, bind_read, List.tail_cons, if_neg hseparator, hhour,
    bind_read, hcolon, bind_read, hminute, bind_read, hcolon, bind_read, hclock, bind_read,
    hfraction, bind_read, hend.1, readOffset_utc, bind_read, hend.2, hcalendar,
    if_neg (by decide), ofNumbers?_self, bind_read, ofClock?_self, bind_read]
  exact atOffset?_zero hcalendar

/-- A point in time with a year of four digits is read from the form in which it is written. -/
theorem ofText?_text {t : Timestamp} (h : t.FourDigitYear) : ofText? t.text = some t := by
  rw [ofText?, text, String.toList_ofList, ofChars?_chars h]

end Timestamp

end ServiceBus
