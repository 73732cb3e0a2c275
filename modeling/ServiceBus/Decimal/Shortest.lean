import ServiceBus.Decimal.Binary64

set_option autoImplicit false

/-! # Shortest decimals

The decimal that stands for a floating-point number is the one with the fewest digits that is
nearer to this number than to any other, and among those the nearest; of two that are equally
near, the even one. It is found in exact arithmetic: for one, two, … digits the two neighbours
of the number among the decimals of that length are tried. -/

namespace ServiceBus.Decimal

/-- A positive fraction. -/
structure Fraction where
  num : Nat
  den : Nat

/-- `n · 2 ^ q` as a fraction. -/
def scaleTwo (n : Nat) (q : Int) : Fraction :=
  if 0 ≤ q then ⟨n * Nat.pow 2 q.toNat, 1⟩ else ⟨n, Nat.pow 2 (-q).toNat⟩

/-- `n · 10 ^ k` as a fraction. -/
def scaleTen (n : Nat) (k : Int) : Fraction :=
  if 0 ≤ k then ⟨n * Nat.pow 10 k.toNat, 1⟩ else ⟨n, Nat.pow 10 (-k).toNat⟩

/-- Whether a fraction is smaller than another. -/
def Fraction.lt (a b : Fraction) : Bool := a.num * b.den < b.num * a.den

/-- The distance of two fractions. -/
def Fraction.distance (a b : Fraction) : Fraction :=
  ⟨if a.lt b then b.num * a.den - a.num * b.den else a.num * b.den - b.num * a.den, a.den * b.den⟩

/-- How often ten goes into the whole part of a fraction that is at least one. -/
def wholeExponent (a : Fraction) : Nat := (Nat.toDigits 10 (a.num / a.den)).length - 1

/-- The least `k`, from the given one on, with `a · 10 ^ k` at least one; `fuel` are tried. -/
def smallExponent (a : Fraction) : Nat → Nat → Nat
  | 0, k => k
  | fuel + 1, k => if a.den ≤ a.num * Nat.pow 10 k then k else smallExponent a fuel (k + 1)

/-- The exponent of the leading digit of a positive fraction, which is at least `10 ^ (-400)`. -/
def leadingExponent (a : Fraction) : Int :=
  if a.den ≤ a.num then wholeExponent a else -(smallExponent a 400 1 : Int)

/-- The decimals that stand for a number: everything between the two ends. -/
structure Interval where
  low : Fraction
  middle : Fraction
  high : Fraction
  /-- Whether the ends belong to the interval. -/
  closed : Bool

/-- The interval of the reals that are nearer to `x` than to any other number. -/
def Interval.ofBinary64 (x : Binary64) : Interval :=
  let m := x.mantissa
  let q := x.exponent - 2
  { low := scaleTwo (4 * m - if x.startsBinade then 1 else 2) q
    middle := scaleTwo (4 * m) q
    high := scaleTwo (4 * m + 2) q
    closed := m % 2 = 0 }

/-- Whether a fraction lies in the interval. -/
def Interval.has (i : Interval) (a : Fraction) : Bool :=
  if i.closed then !(a.lt i.low) && !(i.high.lt a) else i.low.lt a && a.lt i.high

/-- The decimal `c · 10 ^ k` or `(c + 1) · 10 ^ k` in the interval: the nearer one, and of two
equally near ones the even one. -/
def Interval.pick (i : Interval) (c : Nat) (k : Int) : Option Nat :=
  let below := scaleTen c k
  let above := scaleTen (c + 1) k
  match i.has below, i.has above with
  | false, false => none
  | true, false => some c
  | false, true => some (c + 1)
  | true, true =>
      let d := below.distance i.middle
      let u := above.distance i.middle
      if d.lt u then some c
      else if u.lt d then some (c + 1)
      else if c % 2 = 0 then some c
      else some (c + 1)

/-- `shortestFrom i e fuel n` tries `n`, `n + 1`, … digits, with the leading digit at `10 ^ e`;
`fuel` lengths are tried. The result is a number and the power of ten it is multiplied with. -/
def shortestFrom (i : Interval) (e : Int) : Nat → Nat → Nat × Int
  | 0, _ => (0, 0)
  | fuel + 1, n =>
      let k := e - (n - 1 : Nat)
      let unit := scaleTen 1 k
      let c := i.middle.num * unit.den / (i.middle.den * unit.num)
      match i.pick c k with
      | some d => (d, k)
      | none => shortestFrom i e fuel (n + 1)

/-- The shortest decimal for a positive finite number. -/
def shortest (x : Binary64) : Nat × Int :=
  let i := Interval.ofBinary64 x
  shortestFrom i (leadingExponent i.middle) 17 1

end ServiceBus.Decimal
