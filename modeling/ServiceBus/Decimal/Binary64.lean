set_option autoImplicit false

/-! # Binary floating-point numbers

A number in the 64-bit binary format, held as its bits. A finite one is `mantissa · 2 ^ exponent`
with whole mantissa and exponent, and a sign. -/

namespace ServiceBus

/-- A number in the 64-bit binary format. -/
structure Binary64 where
  bits : UInt64
  deriving DecidableEq

namespace Binary64

/-- The number as the hardware computes with it. -/
def toFloat (x : Binary64) : Float := Float.ofBits x.bits

/-- The bits of a computed number. -/
def ofFloat (x : Float) : Binary64 := ⟨x.toBits⟩

/-- Whether the sign bit is set. -/
def isNegative (x : Binary64) : Bool := x.bits.toNat / Nat.pow 2 63 = 1

/-- The eleven bits of the exponent. -/
def exponentBits (x : Binary64) : Nat := x.bits.toNat / Nat.pow 2 52 % Nat.pow 2 11

/-- The fifty-two bits of the fraction. -/
def fractionBits (x : Binary64) : Nat := x.bits.toNat % Nat.pow 2 52

/-- Whether the number is neither infinite nor undefined. -/
def isFinite (x : Binary64) : Bool := x.exponentBits ≠ 2047

/-- The whole mantissa of a finite number. -/
def mantissa (x : Binary64) : Nat :=
  if x.exponentBits = 0 then x.fractionBits else Nat.pow 2 52 + x.fractionBits

/-- The power of two that the mantissa of a finite number is multiplied with. -/
def exponent (x : Binary64) : Int :=
  if x.exponentBits = 0 then -1074 else (x.exponentBits : Int) - 1075

/-- Whether the numbers below are half as far apart as those above. -/
def startsBinade (x : Binary64) : Bool := x.fractionBits = 0 && 1 < x.exponentBits

end Binary64

end ServiceBus
