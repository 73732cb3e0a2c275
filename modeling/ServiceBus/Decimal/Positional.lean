import ServiceBus.Decimal.Shortest

set_option autoImplicit false

/-! # Decimals as text

The shortest decimal of a floating-point number by its digits and the place of its point, and the
text of a decimal in which the point stands at that place, whatever the size of the number. -/

namespace ServiceBus.Decimal

/-- The digits of a decimal without the zeros at its end, and how many zeros those were. -/
def stripZeros : List Char → List Char × Nat := fun ds =>
  let rest := ds.reverse.dropWhile (· = '0')
  (rest.reverse, ds.length - rest.length)

/-- The digits of the shortest decimal `0.ds · 10 ^ point` for a positive finite number, and its
point. -/
def digits (x : Binary64) : List Char × Int :=
  let (d, k) := shortest x
  let (ds, zeros) := stripZeros (Nat.toDigits 10 d)
  (ds, k + zeros + ds.length)

/-- The decimal `0.ds · 10 ^ point`, with its point at its place and a digit on either side. -/
def positional (ds : List Char) (point : Int) : List Char :=
  if point ≤ 0 then '0' :: '.' :: List.replicate (-point).toNat '0' ++ ds
  else if ds.length ≤ point.toNat then
    ds ++ List.replicate (point.toNat - ds.length) '0' ++ ['.', '0']
  else ds.take point.toNat ++ '.' :: ds.drop point.toNat

/-- A finite number with its sign; `text` writes the digits and the point of one that is not
zero. -/
def signed (text : List Char → Int → List Char) (x : Binary64) : List Char :=
  let sign := if x.isNegative then ['-'] else []
  if x.mantissa = 0 then sign ++ ['0', '.', '0']
  else
    let (ds, point) := digits x
    sign ++ text ds point

/-- A floating-point number without an exponent. -/
def plainText (x : Binary64) : String :=
  if x.isFinite then String.ofList (signed positional x)
  else if x.fractionBits ≠ 0 then "NaN"
  else if x.isNegative then "-inf"
  else "inf"

end ServiceBus.Decimal
