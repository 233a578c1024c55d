import Rotorcraft.Proofs.MachineStages
import Rotorcraft.Proofs.Velocity

/-! # Truncation

The fixed-point helpers divide in three ways: they shift a product that was biased before, they add a sign bit and
halve, and they divide behind guards. All three give the exact quotient, truncated toward zero. A shifted product
is computed in 64 bits, in which nothing is lost, and a word keeps its low bits; the guards refuse a division if
there is no quotient that fits in a word, and nothing else.
-/

namespace Rotorcraft

/-- Only a division by zero has no quotient. -/
theorem exists_truncates_iff (offset divisor : Int) :
    (∃ quotient, Truncates offset divisor quotient) ↔ divisor ≠ 0 := by
  constructor
  · rintro ⟨quotient, truncates⟩ rfl
    exact absurd truncates.rest_lt (Nat.not_lt_zero _)
  · intro nonzero
    exact ⟨_, truncates_tdiv offset nonzero⟩

/-- The quotient of a biased number is rounded down, that of the number itself is truncated: the bias of a negative
number is what is missing to the next multiple at most. -/
theorem biased_ediv (number : Int) {divisor : Int} (positive : 0 < divisor) :
    (if number < 0 then number + (divisor - 1) else number) / divisor = number.tdiv divisor := by
  split
  · next negative =>
    have opposite : number.tdiv divisor = -(-number / divisor) := by
      rw [← Int.tdiv_eq_ediv_of_nonneg (by omega), Int.neg_tdiv, Int.neg_neg]
    have split := Int.mul_ediv_add_emod (-number) divisor
    have low := Int.emod_nonneg (-number) (Int.ne_of_gt positive)
    have high := Int.emod_lt_of_pos (-number) positive
    have regrouped : number + (divisor - 1) =
        (divisor - 1 - -number % divisor) + divisor * -(-number / divisor) := by
      rw [Int.mul_neg]
      omega
    rw [regrouped, Int.add_mul_ediv_left _ _ (Int.ne_of_gt positive),
      Int.ediv_eq_zero_of_lt (by omega) (by omega), Int.zero_add, opposite]
  · next above => exact (Int.tdiv_eq_ediv_of_nonneg (by omega)).symm

namespace FixedPoint

theorem natAbs_toInt_le (value : Int32) : value.toInt.natAbs ≤ 0x80000000 := by
  have low := value.le_toInt
  have high := value.toInt_lt
  omega

/-- A product of two words has 63 bits at most. -/
theorem natAbs_product_le (a b : Int32) : (a.toInt * b.toInt).natAbs ≤ 0x4000000000000000 := by
  rw [Int.natAbs_mul]
  exact Nat.mul_le_mul (natAbs_toInt_le a) (natAbs_toInt_le b)

theorem shiftBiased_eq (a b : Int32) (shift : Nat) : shiftBiased a b shift =
    if a.toInt * b.toInt < 0 then a.toInt * b.toInt + ((2 ^ shift : Nat) - 1) else a.toInt * b.toInt := by
  rw [shiftBiased, Nat.one_shiftLeft]

/-- A product and its bias fit in 64 bits. -/
theorem holds_shiftBiased (a b : Int32) {shift : Nat} (small : shift < 32) :
    Word.i64.Holds (shiftBiased a b shift) := by
  have product := natAbs_product_le a b
  have positive := Nat.two_pow_pos shift
  have power : 2 ^ shift ≤ 2 ^ 31 := Nat.pow_le_pow_right (by decide) (by omega)
  rw [shiftBiased_eq]
  simp only [Word.Holds, Word.least, Word.count]
  split <;> omega

/-- A shifted product is the truncated quotient, as far as a word holds it. -/
theorem toInt_scaledMultiplyShift (a b : Int32) {shift : Nat} (small : shift < 32) :
    (scaledMultiplyShift a b shift).toInt =
      ((a.toInt * b.toInt).tdiv (2 ^ shift : Nat)).bmod 0x100000000 := by
  have divisor : (0 : Int) < (2 ^ shift : Nat) := Int.natCast_pos.mpr (Nat.two_pow_pos shift)
  rw [scaledMultiplyShift, Nat.mod_eq_of_lt small, Int.shiftRight_eq_div_pow, shiftBiased_eq,
    biased_ediv _ divisor, Int32.toInt_ofInt]

/-- A word keeps what is in its range. -/
theorem bmod_of_holds {value : Int} (holds : Word.i32.Holds value) : value.bmod 0x100000000 = value := by
  obtain ⟨low, high⟩ := holds
  simp only [Word.least, Word.count] at low high
  exact Int.bmod_eq_of_le (by omega) (by omega)

/-- The quotient of a word by a positive number fits in a word. -/
theorem holds_tdiv (value : Int32) {divisor : Int} (positive : 0 < divisor) :
    Word.i32.Holds (value.toInt.tdiv divisor) := by
  have low := value.le_toInt
  have high := value.toInt_lt
  have within : (value.toInt.tdiv divisor).natAbs ≤ value.toInt.natAbs := by
    rw [Int.natAbs_tdiv]
    exact Nat.div_le_self _ _
  -- the magnitude alone would allow the opposite of the least word
  have below : value.toInt.tdiv divisor ≤ max value.toInt 0 := by
    rcases Int.le_total 0 value.toInt with above | negative
    · have shrunk := Int.tdiv_le_self divisor above
      omega
    · have opposite : 0 ≤ (-value.toInt).tdiv divisor := Int.tdiv_nonneg (by omega) (by omega)
      rw [Int.neg_tdiv] at opposite
      omega
  simp only [Word.Holds, Word.least, Word.count]
  omega

/-- A word that is shifted alone is divided by a power of two. -/
theorem toInt_scaledMultiplyShift_one (product : Int32) {shift : Nat} (small : shift < 32) :
    (scaledMultiplyShift product 1 shift).toInt = product.toInt.tdiv (2 ^ shift : Nat) := by
  rw [toInt_scaledMultiplyShift _ _ small, Int32.toInt_one, Int.mul_one]
  exact bmod_of_holds (holds_tdiv product (Int.natCast_pos.mpr (Nat.two_pow_pos shift)))

theorem roundedHalf_eq_tdiv (product : Int32) : (roundedHalf product).toInt = product.toInt.tdiv 2 := by
  have biased : halfBiased product =
      if product.toInt < 0 then product.toInt + (2 - 1) else product.toInt := by
    rw [halfBiased]
    simp only [Int32.lt_iff_toInt_lt, Int32.toInt_zero]
    split <;> omega
  rw [roundedHalf, biased, biased_ediv _ (by decide), Int32.toInt_ofInt]
  exact bmod_of_holds (holds_tdiv product (by decide))

variable {numerator denominator : Int32}

/-- What the guards let through is what has a quotient that fits in a word. -/
theorem fault?_eq_none_iff_exists : fault? numerator denominator = none ↔
    ∃ quotient, Truncates numerator.toInt denominator.toInt quotient ∧ Word.i32.Holds quotient := by
  constructor
  · intro unguarded
    obtain ⟨nonzero, _⟩ := fault?_eq_none_iff.mp unguarded
    refine ⟨_, truncates_tdiv _ nonzero, ?_⟩
    rw [← (quotient_of_unguarded unguarded).2]
    exact Machine.holds_int32 _
  · rintro ⟨quotient, truncates, _, fits⟩
    rw [fault?_eq_none_iff]
    refine ⟨(exists_truncates_iff _ _).mp ⟨quotient, truncates⟩, ?_⟩
    rintro ⟨one, least⟩
    have opposite := truncates.eq_tdiv
    rw [one, least] at opposite
    rw [opposite] at fits
    exact absurd fits (by decide)

/-- A word that is the truncated quotient is what a division returns. -/
theorem safeDivide_eq_ok {quotient : Int32} (nonzero : denominator.toInt ≠ 0)
    (truncated : quotient.toInt = numerator.toInt.tdiv denominator.toInt) :
    safeDivide numerator denominator = .ok quotient := by
  have unguarded : fault? numerator denominator = none := by
    rw [fault?_eq_none_iff_exists]
    refine ⟨quotient.toInt, ?_, Machine.holds_int32 _⟩
    rw [truncated]
    exact truncates_tdiv _ nonzero
  rw [safeDivide, unguarded]
  refine congrArg Except.ok (Int32.toInt_inj.mp ?_)
  rw [(quotient_of_unguarded unguarded).2, truncated]

/-- The powers of two that are words divide like shifts. -/
theorem safeDivide_power (product : Int32) {shift : Nat} (small : shift ≤ 30) :
    safeDivide product (Int32.ofNat (2 ^ shift)) = .ok (scaledMultiplyShift product 1 shift) := by
  have positive := Nat.two_pow_pos shift
  have power : 2 ^ shift ≤ 2 ^ 30 := Nat.pow_le_pow_right (by decide) small
  have divisor : (Int32.ofNat (2 ^ shift)).toInt = (2 ^ shift : Nat) := Int32.toInt_ofNat_of_lt (by omega)
  apply safeDivide_eq_ok
  · rw [divisor]
    omega
  · rw [divisor, toInt_scaledMultiplyShift_one product (by omega)]

end FixedPoint

namespace Machine

def biased (product : Int) (count : Nat) : Machine Int :=
  if product < 0 then do
    let power ← shl .i64 1 count
    let bias ← sub .i64 power 1
    add .i64 product bias
  else return product

/-- The low 32 bits of a product that is shifted to the right in 64 bits. -/
def scaledMultiplyShift (a b : Int) (shift : Nat) : Machine Int32 := do
  let count := shift &&& 31
  let product ← mul .i64 a b
  let sum ← biased product count
  let shifted ← shr .i64 sum count
  return Int32.ofInt shifted

/-- The bias itself is less than the magnitude of a word. -/
theorem biased_eq (a b : Int32) {shift : Nat} (small : shift < 32) :
    biased (a.toInt * b.toInt) shift = pure (FixedPoint.shiftBiased a b shift) := by
  have bits : shift < Word.i64.bits := Nat.lt_trans small (by decide)
  have positive := Nat.two_pow_pos shift
  have power : 2 ^ shift ≤ 2 ^ 31 := Nat.pow_le_pow_right (by decide) (by omega)
  have single : Word.i64.Holds (1 * (2 ^ shift : Nat)) := by
    simp only [Word.Holds, Word.least, Word.count]
    omega
  have bias : Word.i64.Holds (1 * (2 ^ shift : Nat) - 1) := by
    simp only [Word.Holds, Word.least, Word.count]
    omega
  have sum := FixedPoint.holds_shiftBiased a b small
  rw [FixedPoint.shiftBiased_eq] at sum ⊢
  rw [biased]
  split
  · next negative =>
    rw [if_pos negative] at sum
    rw [shl_eq bits single, pure_bind, sub_eq bias, pure_bind, Int.one_mul, add_eq sum]
  · rfl

theorem scaledMultiplyShift_eq (a b : Int32) {shift : Nat} (small : shift < 32) :
    scaledMultiplyShift a.toInt b.toInt shift = pure (FixedPoint.scaledMultiplyShift a b shift) := by
  have count : shift &&& 31 = shift :=
    (Nat.and_two_pow_sub_one_eq_mod shift 5).trans (Nat.mod_eq_of_lt small)
  have bits : shift < Word.i64.bits := Nat.lt_trans small (by decide)
  have product : Word.i64.Holds (a.toInt * b.toInt) := by
    have bound := FixedPoint.natAbs_product_le a b
    simp only [Word.Holds, Word.least, Word.count]
    omega
  rw [scaledMultiplyShift, count, mul_eq product, pure_bind, biased_eq a b small, pure_bind,
    shr_eq bits (FixedPoint.holds_shiftBiased a b small), pure_bind, FixedPoint.scaledMultiplyShift,
    Nat.mod_eq_of_lt small, Int.shiftRight_eq_div_pow]

end Machine

namespace FixedPoint

/-- What a shifted product comes to: no operator leaves its range, and a word keeps the low bits of the quotient. -/
structure ScalesDown (a b : Int32) (shift : Nat) : Prop where
  inRange : Machine.scaledMultiplyShift a.toInt b.toInt shift = pure (scaledMultiplyShift a b shift)
  biased : Word.i64.Holds (shiftBiased a b shift)
  quotient : ∃ quotient, Truncates (a.toInt * b.toInt) (2 ^ shift : Nat) quotient ∧
    (scaledMultiplyShift a b shift).toInt = quotient.bmod 0x100000000

/-- What a guarded division and its remainder come to. -/
structure Guards (numerator denominator : Int32) : Prop where
  together : ∀ fault,
    safeDivide numerator denominator = .error fault ↔ safeRemainder numerator denominator = .error fault
  /-- They are refused if there is no quotient, or none that fits in a word. -/
  refused : (∃ fault, safeDivide numerator denominator = .error fault) ↔
    ¬∃ quotient, Truncates numerator.toInt denominator.toInt quotient ∧ Word.i32.Holds quotient
  divided : ∀ quotient, safeDivide numerator denominator = .ok quotient →
    Truncates numerator.toInt denominator.toInt quotient.toInt ∧
      ∃ rest, safeRemainder numerator denominator = .ok rest ∧
        numerator.toInt = quotient.toInt * denominator.toInt + rest.toInt ∧
        rest.toInt.natAbs < denominator.toInt.natAbs ∧
        (rest.toInt = 0 ∨ rest.toInt.sign = numerator.toInt.sign)

theorem guards (numerator denominator : Int32) : Guards numerator denominator := by
  cases guarded : fault? numerator denominator with
  | some fault =>
    have division : safeDivide numerator denominator = .error fault := by rw [safeDivide, guarded]
    have remainder : safeRemainder numerator denominator = .error fault := by rw [safeRemainder, guarded]
    constructor
    · intro other
      rw [division, remainder]
    · rw [← fault?_eq_none_iff_exists, guarded]
      exact iff_of_true ⟨fault, division⟩ (Option.some_ne_none fault)
    · intro quotient success
      rw [division] at success
      cases success
  | none =>
    have division : safeDivide numerator denominator = .ok (numerator / denominator) := by
      rw [safeDivide, guarded]
    have remainder : safeRemainder numerator denominator = .ok (numerator % denominator) := by
      rw [safeRemainder, guarded]
    have nonzero : denominator.toInt ≠ 0 := (fault?_eq_none_iff.mp guarded).1
    have truncates : Truncates numerator.toInt denominator.toInt (numerator / denominator).toInt := by
      rw [(quotient_of_unguarded guarded).2]
      exact truncates_tdiv _ nonzero
    have rest : (numerator % denominator).toInt =
        numerator.toInt - (numerator / denominator).toInt * denominator.toInt := by
      rw [Int32.toInt_mod, Int.tmod_def, truncates.eq_tdiv, Int.mul_comm]
    constructor
    · intro fault
      rw [division, remainder]
      constructor <;> rintro ⟨⟩
    · rw [← fault?_eq_none_iff_exists, division]
      refine iff_of_false ?_ (not_not_intro guarded)
      rintro ⟨fault, ⟨⟩⟩
    · intro quotient success
      rw [division] at success
      cases success
      refine ⟨truncates, _, remainder, ?_⟩
      rw [rest]
      exact ⟨by omega, truncates.rest_lt, truncates.rest_sign⟩

theorem scalesDown (a b : Int32) {shift : Nat} (small : shift < 32) : ScalesDown a b shift where
  inRange := Machine.scaledMultiplyShift_eq a b small
  biased := holds_shiftBiased a b small
  quotient := ⟨_, truncates_tdiv _ (Int.natCast_ne_zero.mpr (Nat.two_pow_pos shift).ne'),
    toInt_scaledMultiplyShift a b small⟩

/-- Shifted products, halves and guarded divisions truncate the exact quotient, and so they agree wherever they
divide the same number. -/
theorem divisions_agree :
    (∀ (a b : Int32) (shift : Nat), shift < 32 → ScalesDown a b shift) ∧
      (∀ product : Int32,
        scaledMultiplyShift product 1 1 = roundedHalf product ∧
        safeDivide product 2 = .ok (roundedHalf product) ∧
        ∀ shift ≤ 30, safeDivide product (Int32.ofNat (2 ^ shift)) =
          .ok (scaledMultiplyShift product 1 shift)) ∧
      ∀ numerator denominator : Int32, Guards numerator denominator := by
  refine ⟨fun a b shift => scalesDown a b, fun product => ⟨?_, ?_, ?_⟩, guards⟩
  · apply Int32.toInt_inj.mp
    rw [roundedHalf_eq_tdiv, toInt_scaledMultiplyShift_one product (by decide)]
    rfl
  · exact safeDivide_eq_ok (by decide) (roundedHalf_eq_tdiv product)
  · exact fun shift => safeDivide_power product

/-- The square of the least word, shifted by all that is allowed, no longer fits in a word; alone the least word
does. -/
theorem divisions_agree_of_least :
    (31 < 32 ∧ scaledMultiplyShift Int32.minValue Int32.minValue 31 = Int32.minValue ∧
      ScalesDown Int32.minValue Int32.minValue 31) ∧
    (30 ≤ 30 ∧ scaledMultiplyShift Int32.minValue 1 30 = -2 ∧
      safeDivide Int32.minValue (Int32.ofNat (2 ^ 30)) = .ok (scaledMultiplyShift Int32.minValue 1 30)) ∧
    safeDivide Int32.minValue (-1) = .error (.overflow Int32.minValue) ∧ Guards Int32.minValue (-1) := by
  refine ⟨⟨by decide, by decide, ?_⟩, ⟨by decide, by decide, ?_⟩, by decide, ?_⟩
  · exact divisions_agree.1 Int32.minValue Int32.minValue 31 (by decide)
  · exact (divisions_agree.2.1 Int32.minValue).2.2 30 (by decide)
  · exact divisions_agree.2.2 Int32.minValue (-1)

end FixedPoint
end Rotorcraft
