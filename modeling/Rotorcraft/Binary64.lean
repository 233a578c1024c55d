/-! # Decimal numbers beyond 64-bit binary floating point

A decimal number is read in two factors, its leading digits and a power of ten. Each is rounded to
the 53 bits of the format before they are multiplied, so that a number next to the limit may be
refused although it is below it, and may be accepted although it is above.
-/

namespace Rotorcraft.Binary64

/-- The number of 53 significant bits next to a number; of two the one whose last bit is zero. -/
def nearest (number : Nat) : Nat :=
  let unit := 1 <<< (number.log2 - 52)
  let quotient := number / unit
  let twice := 2 * (number % unit)
  if unit < twice ∨ (unit = twice ∧ quotient % 2 = 1) then (quotient + 1) * unit
  else quotient * unit

/-- Drops last digits of `digits * 10 ^ exponent` until the others fit into 64 bits. -/
def leadingDigits (digits : Nat) (exponent : Int) : Nat × Int :=
  if digits < UInt64.size then (digits, exponent) else leadingDigits (digits / 10) (exponent + 1)
termination_by digits
decreasing_by
  simp only [UInt64.size] at *
  omega

/-- The least magnitude that is rounded to infinity. -/
def infinity : Nat :=
  (1 <<< 1024) - (1 <<< 970)

/-- The greatest power of ten that is finite. -/
def maxExponent : Nat := 308

/-- Whether `digits * 10 ^ exponent` is read as infinity. -/
def isInfinite (digits : Nat) (exponent : Int) : Bool :=
  let (digits, exponent) := leadingDigits digits exponent
  if digits = 0 ∨ exponent < 0 then false
  else if maxExponent < exponent then true
  else infinity ≤ nearest digits * nearest (Nat.pow 10 exponent.toNat)

end Rotorcraft.Binary64
