/-! # Fixed-point arithmetic on 32-bit words

Every division of the engine goes through `safeDivide` or `safeRemainder`, which refuse the two
cases without a 32-bit quotient and say which one it was. The scaled operations are computed over
the integers and stored in a word once, at the end.
-/

namespace Rotorcraft

/-- A division that has no 32-bit quotient, with the numerator that was to be divided. -/
inductive DivisionFault where
  | byZero (numerator : Int32)
  | overflow (numerator : Int32)
deriving DecidableEq, Repr

def DivisionFault.message : DivisionFault → String
  | .byZero numerator => "division by zero: " ++ toString numerator.toInt ++ " / 0"
  | .overflow numerator => "division overflow: " ++ toString numerator.toInt ++ " / -1"

namespace FixedPoint

/-- The reason, if any, for which `numerator / denominator` is refused. -/
def fault? (numerator denominator : Int32) : Option DivisionFault :=
  if denominator = 0 then some (.byZero numerator)
  else if denominator = -1 ∧ numerator = Int32.minValue then some (.overflow numerator)
  else none

/-- The quotient, truncated toward zero. -/
def safeDivide (numerator denominator : Int32) : Except DivisionFault Int32 :=
  match fault? numerator denominator with
  | some fault => .error fault
  | none => .ok (numerator / denominator)

/-- The remainder of `safeDivide`, which has the sign of the numerator. -/
def safeRemainder (numerator denominator : Int32) : Except DivisionFault Int32 :=
  match fault? numerator denominator with
  | some fault => .error fault
  | none => .ok (numerator % denominator)

/-- The sum that `roundedHalf` shifts: one is added to a negative product. -/
def halfBiased (product : Int32) : Int :=
  product.toInt + if product < 0 then 1 else 0

/-- Half of a product, rounded toward zero. -/
def roundedHalf (product : Int32) : Int32 :=
  Int32.ofInt (halfBiased product / 2)

/-- The product that `scaledMultiplyShift` shifts: a negative one is raised by `2 ^ shift - 1`, so
that the shift rounds it toward zero. -/
def shiftBiased (a b : Int32) (shift : Nat) : Int :=
  let product := a.toInt * b.toInt
  if product < 0 then product + ((1 <<< shift : Nat) - 1) else product

/-- The low 32 bits of `a * b / 2 ^ shift`; of the shift only the low five bits count. -/
def scaledMultiplyShift (a b : Int32) (shift : Nat) : Int32 :=
  Int32.ofInt (shiftBiased a b (shift % 32) >>> (shift % 32))

/-- The magnitude of a word, kept representable. -/
def saturatingAbs (value : Int32) : Int :=
  min value.toInt.natAbs Int32.maxValue.toInt

/-- The value nearest to `value` whose magnitude is at most that of `limit`. -/
def clampMagnitude (value limit : Int32) : Int32 :=
  let bound := saturatingAbs limit
  Int32.ofInt (max (-bound) (min value.toInt bound))

end FixedPoint
end Rotorcraft
