import ServiceBus.Decimal.Parts
import ServiceBus.Json

set_option autoImplicit false

/-! # Numbers in JSON text

A numeral consists of a sign, a whole part, a fraction and an exponent. One with nothing but a
whole part stands for that whole number, if 64 bits can hold it. Any other stands for a
floating-point number, which is found by a single scaling: as many digits as 64 bits can hold
are taken as they are, and the number they make is multiplied with, or divided by, a power of
ten. This is at most a little off the nearest floating-point number. -/

namespace ServiceBus.Json

open ServiceBus.Text ServiceBus.Decimal

/-- The parts of a number as it is written. -/
structure Numeral where
  negative : Bool
  whole : List Nat
  fraction : List Nat
  exponent : Option Exponent
  deriving DecidableEq

namespace Numeral

/-! ## The parts of a number -/

/-- The digits of a fraction, if there is one, and the rest. -/
def fraction? (s : List Char) : Option (List Nat × List Char) :=
  match s with
  | '.' :: r =>
      let (ds, rest) := leadingDigits r
      if ds.isEmpty then none else some (ds, rest)
  | _ => some ([], s)

/-- The parts of a number. Its whole part has no zero in front of other digits. -/
def ofChars? (s : List Char) : Option Numeral :=
  let (negative, s) :=
    match s with
    | '-' :: r => (true, r)
    | r => (false, r)
  match leadingDigits s with
  | ([], _) => none
  | (0 :: _ :: _, _) => none
  | (whole, s) =>
      match fraction? s with
      | none => none
      | some (fraction, s) => (exponent? s).map fun e => ⟨negative, whole, fraction, e⟩

/-! ## The number -/

/-- Append digits to `n` as long as 64 bits can hold the number, and return those left over. -/
def absorb : Nat → List Nat → Nat × List Nat
  | n, [] => (n, [])
  | n, d :: ds => if 10 * n + d < Nat.pow 2 64 then absorb (10 * n + d) ds else (n, d :: ds)

/-- `x · 10 ^ e`, unless it is too large; a very small factor is taken in steps. -/
def scale (x : Float) (e : Int) : Nat → Option Float
  | 0 => some x
  | steps + 1 =>
      if e.natAbs ≤ 308 then
        if 0 ≤ e then
          let y := x * Float.ofScientific 1 false e.natAbs
          if y.isInf then none else some y
        else some (x / Float.ofScientific 1 false e.natAbs)
      else if x == 0.0 then some x
      else if 0 ≤ e then none
      else scale (x / Float.ofScientific 1 false 308) (e + 308) steps

/-- A floating-point number from its digits and the power of ten they are multiplied with. -/
def approximate (negative : Bool) (n : Nat) (e : Int) : Option Json :=
  (scale (UInt64.ofNat n).toFloat e 5).map fun x => .float (.ofFloat (if negative then -x else x))

/-- The exponents that 32 bits can hold. -/
def largestExponent : Nat := Nat.pow 2 31 - 1

/-- A floating-point number. A number whose exponent is out of all bounds is zero, if it does not
overflow. -/
def toFloat? (a : Numeral) : Option Json :=
  let (n, dropped) := absorb 0 a.whole
  let (n, unread) := absorb n a.fraction
  let point : Int := (dropped.length : Int) - (a.fraction.length - unread.length : Nat)
  match a.exponent with
  | none => approximate a.negative n point
  | some (negative, ds) =>
      let e := value 10 ds
      if e ≤ largestExponent then
        approximate a.negative n (if negative then point - e else point + e)
      else if n ≠ 0 ∧ negative = false then none
      else approximate a.negative 0 0

/-- The value of a number. The negative zero is a floating-point number. -/
def toJson? (a : Numeral) : Option Json :=
  let n := value 10 a.whole
  if a.fraction.isEmpty && a.exponent.isNone then
    if !a.negative && n < Nat.pow 2 64 then some (.int n)
    else if a.negative && 0 < n && n ≤ Nat.pow 2 63 then some (.int (-(n : Int)))
    else a.toFloat?
  else a.toFloat?

end Numeral

end ServiceBus.Json
