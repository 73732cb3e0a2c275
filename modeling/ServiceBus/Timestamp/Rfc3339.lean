import ServiceBus.Timestamp
import ServiceBus.Text.Blank
import ServiceBus.Text.Numeral

set_option autoImplicit false

/-! # Points in time as text

The written form is that of RFC 3339 in Coordinated Universal Time, with a `Z` and as many
groups of three fraction digits as the nanoseconds need; a year outside of four digits has a
sign. The reader is more liberal: fields may have fewer digits and blanks in front, the date and
the time may be separated by a blank, and the point may be given with any offset. -/

namespace ServiceBus.Timestamp

open ServiceBus.Text

/-! ## Writing -/

/-- A year, with four digits, or with a sign if it needs more or is negative. -/
def yearText (year : Int) : List Char :=
  let n := year.natAbs
  if 0 ≤ year ∧ year ≤ 9999 then padded 10 4 n
  else (if year < 0 then '-' else '+') :: (if n < 10000 then padded 10 4 n else Nat.toDigits 10 n)

/-- The fraction of a second, with zero, three, six or nine digits. -/
def fractionText (nano : Nat) : List Char :=
  if nano = 0 then []
  else if nano % 1000000 = 0 then '.' :: padded 10 3 (nano / 1000000)
  else if nano % 1000 = 0 then '.' :: padded 10 6 (nano / 1000)
  else '.' :: padded 10 9 nano

/-- The characters of the written form. A leap second is the second sixty of its minute. -/
def chars (t : Timestamp) : List Char :=
  let extra := t.nano / 1000000000
  yearText t.date.year ++ '-' :: padded 10 2 t.date.month ++ '-' :: padded 10 2 t.date.day ++
    'T' :: padded 10 2 (t.second / 3600) ++ ':' :: padded 10 2 (t.second / 60 % 60) ++
    ':' :: padded 10 2 (t.second % 60 + extra) ++ fractionText (t.nano % 1000000000) ++ ['Z']

/-- The written form. -/
def text (t : Timestamp) : String := String.ofList t.chars

/-! ## Reading

Each reader returns what it has read and the rest of the text. -/

/-- Up to `most` decimal digits, at least one. -/
def readNumber (most : Nat) (s : List Char) : Option (Nat × List Char) :=
  let ds := (s.take most).takeWhile isDigit
  if ds.isEmpty then none
  else (number? 10 ds).map fun n => (n, s.drop ds.length)

/-- A number of up to two digits, with blanks in front. -/
def readField (s : List Char) : Option (Nat × List Char) := readNumber 2 (trimStart s)

/-- A year: up to four digits, or any number of digits behind a sign. -/
def readYear (s : List Char) : Option (Int × List Char) :=
  match trimStart s with
  | '-' :: r => (readNumber r.length r).map fun p => (-(p.1 : Int), p.2)
  | '+' :: r => (readNumber r.length r).map fun p => ((p.1 : Int), p.2)
  | r => (readNumber 4 r).map fun p => ((p.1 : Int), p.2)

/-- The separator `c`, with blanks in front. -/
def readMark (c : Char) (s : List Char) : Option (List Char) :=
  match trimStart s with
  | d :: r => if d = c then some r else none
  | [] => none

/-- A fraction of a second in nanoseconds; digits after the ninth are dropped. -/
def readFraction (s : List Char) : Option (Nat × List Char) :=
  match s with
  | '.' :: r =>
      (readNumber 9 r).map fun p =>
        (p.1 * Nat.pow 10 (9 - (r.length - p.2.length)), p.2.dropWhile isDigit)
  | _ => some (0, s)

/-- Two decimal digits. -/
def readPair (s : List Char) : Option (Nat × List Char) :=
  (number? 10 (s.take 2)).bind fun n => if 2 ≤ s.length then some (n, s.drop 2) else none

/-- The offset from Coordinated Universal Time, in seconds: `Z`, `UTC`, or a sign, hours and
minutes. -/
def readOffset (s : List Char) : Option (Int × List Char) :=
  let signed (sign : Int) (r : List Char) : Option (Int × List Char) := do
    let (hours, r) ← readPair r
    let (minutes, r) ← readPair (r.dropWhile fun c => c = ':' || isBlank c)
    if minutes < 60 then some (sign * ((hours * 3600 + minutes * 60 : Nat) : Int), r) else none
  if (s.take 3).map Char.toLower = ['u', 't', 'c'] then some (0, s.drop 3)
  else
    match s with
    | [] => none
    | c :: r =>
        if c = 'Z' || c = 'z' then some (0, r)
        else if c = '+' then signed 1 r
        else if c = '-' || c.toNat = 0x2212 then signed (-1) r
        else none

/-- The years that can be told apart from a damaged text. -/
def inCalendar (year : Int) : Bool := -262143 ≤ year && year ≤ 262142

/-- The second and the nanoseconds of a clock reading, the second sixty being a leap second. -/
def ofClock? (date : Date) (hour minute second nano : Nat) : Option Timestamp :=
  if h : hour < 24 ∧ minute < 60 ∧ second ≤ 60 ∧ nano < 1000000000 then
    some
      { date := date
        second := hour * 3600 + minute * 60 + min second 59
        nano := if second = 60 then nano + 1000000000 else nano
        second_lt := by omega
        nano_lt := by split <;> omega
        leap := by split <;> omega }
  else none

/-- The point whose clock reads `t` at an offset of whole minutes, less than a day. -/
def atOffset? (t : Timestamp) (minutes : Int) : Option Timestamp :=
  let total := (t.second : Int) - minutes * 60
  let date := if total < 0 then t.date.previous else if 86400 ≤ total then t.date.next else t.date
  let second := (total % 86400).toNat
  if h : second < 86400 ∧ second % 60 = t.second % 60 then
    if inCalendar date.year then
      some { t with date := date, second := second, second_lt := h.1, leap := fun l => h.2 ▸ t.leap l }
    else none
  else none

/-- Read a point in time from the whole of a text. -/
def ofChars? (s : List Char) : Option Timestamp := do
  let (year, s) ← readYear s
  let (month, s) ← readField (← readMark '-' s)
  let (day, s) ← readField (← readMark '-' s)
  let separated ← s.head?
  let s := s.tail
  if separated ≠ 'T' ∧ separated ≠ 't' ∧ separated ≠ ' ' then none
  let (hour, s) ← readField s
  let (minute, s) ← readField (← readMark ':' s)
  let (second, s) ← readField (← readMark ':' s)
  let (nano, s) ← readFraction s
  let (offset, s) ← readOffset (trimStart s)
  if !(trimStart s).isEmpty || !inCalendar year || 86400 ≤ offset.natAbs then none
  let date ← Date.ofNumbers? year month day
  let reading ← ofClock? date hour minute second nano
  reading.atOffset? (offset / 60)

/-- Read a point in time from a text. -/
def ofText? (s : String) : Option Timestamp := ofChars? s.toList

end ServiceBus.Timestamp
