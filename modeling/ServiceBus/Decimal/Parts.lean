import ServiceBus.Text.Numeral

set_option autoImplicit false

/-! # Parts of a decimal number

What decimal numbers are written with: runs of digits, and an exponent at the end. -/

namespace ServiceBus.Decimal

open ServiceBus.Text

/-- The decimal digits at the start of a text, and the rest. -/
def leadingDigits (s : List Char) : List Nat × List Char :=
  ((s.takeWhile isDigit).map fun c => c.toNat - 48, s.dropWhile isDigit)

/-- An exponent: whether it is negative, and its digits. -/
abbrev Exponent := Bool × List Nat

/-- Whether a text has a minus sign, and what follows the sign if there is one. -/
def splitSign : List Char → Bool × List Char
  | '-' :: s => (true, s)
  | '+' :: s => (false, s)
  | s => (false, s)

/-- The exponent that a text consists of, if it is not empty. -/
def exponent? : List Char → Option (Option Exponent)
  | [] => some none
  | c :: s =>
      if c = 'e' || c = 'E' then
        let (negative, s) := splitSign s
        let (ds, rest) := leadingDigits s
        if ds.isEmpty || !rest.isEmpty then none else some (some (negative, ds))
      else none

end ServiceBus.Decimal
