import Mathlib.Algebra.Order.Floor.Div
import Mathlib.Logic.Function.Iterate
import Mathlib.Tactic.SplitIfs
import Rotorcraft.Angle

/-! # Pursuit in a ring

Altitudes and headings pursue their targets in the same way: seen from the lowest value on, both move
among the places of a ring, the one among `2 ^ 16` of them and the other among 4096. Every step takes a
whole stride off the way that is left, also where it leads away from a target below and around the ring,
so that every pursuit ends, and it is known when at the latest.
-/

namespace Rotorcraft

/-- One step of a pursuit among the places of a ring: onto the target if it is a stride away at most,
and up by a stride otherwise. -/
def chase (width stride target place : Nat) : Nat :=
  if place ≤ target + stride ∧ target ≤ place + stride then target else (place + stride) % width

namespace Chase

variable {width stride target place : Nat}

/-- What is left of the way. Above the target it leads around the ring, and the last stride may end
above the target again, one step away from it. -/
def way (width stride target place : Nat) : Nat :=
  if place ≤ target then target - place
  else if place ≤ target + stride then 1
  else max (width - (place - target)) (width - place + stride)

theorem chase_target (width stride target : Nat) : chase width stride target target = target :=
  if_pos ⟨Nat.le_add_right _ _, Nat.le_add_right _ _⟩

theorem chase_zero (inside : place < width) : chase width 0 target place = place := by
  simp only [chase, Nat.add_zero]
  split
  · omega
  · exact Nat.mod_eq_of_lt inside

/-- With a stride, only the target is not left again. -/
theorem eq_target_of_chase_eq (inside : place < width) (aim : target < width) (moves : 0 < stride)
    (still : chase width stride target place = place) : place = target := by
  rw [chase] at still
  split at still
  · exact still.symm
  · next far =>
    by_cases wraps : place + stride < width
    · rw [Nat.mod_eq_of_lt wraps] at still
      omega
    · rw [Nat.mod_eq_sub_mod (by omega), Nat.mod_eq_of_lt (by omega)] at still
      omega

theorem chase_lt (aim : target < width) : chase width stride target place < width := by
  simp only [chase]
  split
  · exact aim
  · exact Nat.mod_lt _ (by omega)

theorem way_lt (stride : Nat) (inside : place < width) (aim : target < width) :
    way width stride target place < width := by
  simp only [way]
  split_ifs <;> omega

theorem eq_target_of_way_eq_zero (inside : place < width) (none : way width stride target place = 0) :
    place = target := by
  simp only [way] at none
  split_ifs at none <;> omega

/-- Every step takes a stride off the way. -/
theorem way_chase (stride : Nat) (inside : place < width) (aim : target < width) :
    way width stride target (chase width stride target place) ≤
      way width stride target place - stride := by
  by_cases near : place ≤ target + stride ∧ target ≤ place + stride
  · rw [chase, if_pos near, way, if_pos (Nat.le_refl target), Nat.sub_self]
    exact Nat.zero_le _
  · rw [chase, if_neg near]
    by_cases below : place ≤ target
    · -- the target is more than a stride above, so the step ends below it
      rw [Nat.mod_eq_of_lt (by omega)]
      simp only [way]
      split_ifs <;> omega
    · by_cases wraps : place + stride < width
      · rw [Nat.mod_eq_of_lt wraps]
        simp only [way]
        split_ifs <;> omega
      · -- the step leads once around the ring, to a place below the stride
        rw [Nat.mod_eq_sub_mod (by omega), Nat.mod_eq_of_lt (by omega)]
        simp only [way]
        split_ifs <;> omega

/-- A pursuit ends when its steps cover the way. -/
theorem iterate_eq_target (inside : place < width) (aim : target < width) {count : Nat}
    (enough : way width stride target place ≤ stride * count) :
    (chase width stride target)^[count] place = target := by
  induction count generalizing place with
  | zero => exact eq_target_of_way_eq_zero inside (by simpa using enough)
  | succ count ih =>
    have step := way_chase stride inside aim
    rw [Nat.mul_succ] at enough
    exact ih (chase_lt aim) (by omega)

/-- After as many steps as cover the ring, one more step changes nothing. -/
theorem chase_iterate (inside : place < width) (aim : target < width) {count : Nat}
    (enough : (width - 1) ⌈/⌉ stride ≤ count) :
    chase width stride target ((chase width stride target)^[count] place) =
      (chase width stride target)^[count] place := by
  obtain rfl | positive := Nat.eq_zero_or_pos stride
  · have still : (chase width 0 target)^[count] place = place :=
      Function.iterate_fixed (chase_zero inside) count
    rw [still, chase_zero inside]
  · have bound := (ceilDiv_le_iff_le_mul positive).mp enough
    have way := way_lt stride inside aim
    rw [iterate_eq_target inside aim (by omega), chase_target]

/-- What moves like a pursuit in a ring comes to rest like it. -/
theorem iterate_of_semiconj {α : Type} {place : α → Nat} {step : α → α}
    (distinct : Function.Injective place)
    (follows : Function.Semiconj place step (chase width stride target)) {start : α}
    (inside : place start < width) (aim : target < width) {count : Nat}
    (enough : (width - 1) ⌈/⌉ stride ≤ count) : step (step^[count] start) = step^[count] start := by
  apply distinct
  rw [follows.eq, (follows.iterate_right count).eq]
  exact chase_iterate inside aim enough

end Chase

namespace Pursuit

/-- The place of a value among all 16-bit values, counted from the least one. -/
def place (value : Int16) : Nat :=
  (value.toInt + 32768).toNat

theorem place_lt (value : Int16) : place value < 65536 := by
  have bound := value.toInt_lt
  simp only [place]
  omega

theorem place_injective : Function.Injective place := by
  intro first second same
  have firstBound := first.le_toInt
  have secondBound := second.le_toInt
  simp only [place] at same
  exact Int16.toInt_inj.mp (by omega)

/-- Values wrap around where the places do. -/
theorem place_ofInt (value : Int) : place (Int16.ofInt value) = ((value + 32768) % 65536).toNat := by
  simp only [place, Int16.toInt_ofInt, Int.bmod, Int16.size]
  split <;> omega

theorem place_approach (current target : Int16) {step : Int} (positive : 0 ≤ step) :
    place (approach current target.toInt step) =
      chase 65536 step.toNat (place target) (place current) := by
  have currentBound := current.le_toInt
  have targetBound := target.le_toInt
  obtain ⟨stride, rfl⟩ := Int.eq_ofNat_of_zero_le positive
  simp only [approach, chase, Int.toNat_natCast]
  by_cases near : place current ≤ place target + stride ∧ place target ≤ place current + stride
  · rw [if_neg (by simp only [place] at near; omega), if_pos near, Int16.ofInt_toInt]
  · rw [if_pos (by simp only [place] at near; omega), if_neg near, place_ofInt]
    simp only [place]
    omega

/-- A pursuit comes to rest in as many steps as cover the range of the values. -/
theorem step_iterate (pursuit : Pursuit) {step : Int32} (positive : 0 ≤ step.toInt) {count : Nat}
    (enough : 65535 ⌈/⌉ step.toInt.toNat ≤ count) :
    ((·.step step)^[count] pursuit).step step = (·.step step)^[count] pursuit := by
  have current : Function.Semiconj (fun value => (⟨value, pursuit.target⟩ : Pursuit))
      (fun value => approach value pursuit.target.toInt step.toInt) (·.step step) := fun _ => rfl
  have rest := Chase.iterate_of_semiconj place_injective
    (fun value => place_approach value pursuit.target positive) (place_lt pursuit.current)
    (place_lt pursuit.target) enough
  have reached := (current.iterate_right count).eq pursuit.current
  calc ((·.step step)^[count] pursuit).step step
    _ = ⟨approach _ pursuit.target.toInt step.toInt, pursuit.target⟩ := by rw [← reached]; rfl
    _ = (·.step step)^[count] pursuit := by rw [rest]; exact reached

/-- A pursuit that moves at all rests on its target only. -/
theorem isSettled_of_step_eq {pursuit : Pursuit} {step : Int32} (moves : 0 < step.toInt)
    (still : pursuit.step step = pursuit) : pursuit.isSettled = true := by
  have current : approach pursuit.current pursuit.target.toInt step.toInt = pursuit.current :=
    congrArg Pursuit.current still
  have follows := place_approach pursuit.current pursuit.target (Int.le_of_lt moves)
  rw [current] at follows
  have reached := Chase.eq_target_of_chase_eq (place_lt pursuit.current) (place_lt pursuit.target)
    (by omega) follows.symm
  exact beq_iff_eq.mpr (place_injective reached)

end Pursuit

namespace Angle

theorem units_injective : Function.Injective fun angle : Angle => angle.units.val := by
  rintro ⟨first⟩ ⟨second⟩ same
  exact congrArg Angle.mk (Fin.ext same)

/-- Headings wrap around at a full turn. -/
theorem units_ofInt (units : Int) : (ofInt units).units.val = (units % 4096).toNat := by
  simp only [ofInt, turnUnits, Fin.ofNat]
  omega

theorem toInt_ofInt_toInt (angle : Angle) : (Int16.ofInt angle.toInt).toInt = angle.toInt := by
  have bound := angle.units.isLt
  rw [Int16.toInt_ofInt, toInt]
  exact Int.bmod_eq_of_le (by simp only [Int16.size]; omega) (by simp only [Int16.size]; omega)

theorem units_approach (angle target : Angle) {step : Int32} (positive : 0 ≤ step.toInt) :
    (angle.approach target step).units.val =
      chase 4096 step.toInt.toNat target.units.val angle.units.val := by
  have angleBound := angle.units.isLt
  have targetBound := target.units.isLt
  obtain ⟨stride, equation⟩ := Int.eq_ofNat_of_zero_le positive
  rw [approach, units_ofInt]
  simp only [Rotorcraft.approach, chase, toInt_ofInt_toInt, equation, Int.toNat_natCast]
  by_cases near :
      angle.units.val ≤ target.units.val + stride ∧ target.units.val ≤ angle.units.val + stride
  · rw [if_neg (by simp only [toInt]; omega), if_pos near, toInt_ofInt_toInt]
    simp only [toInt]
    omega
  · -- the words have as many values as sixteen turns, so none is lost where they wrap
    rw [if_pos (by simp only [toInt]; omega), if_neg near]
    simp only [toInt, Int16.toInt_ofInt, Int.bmod, Int16.size]
    omega

/-- A heading comes to rest in as many steps as cover a turn. -/
theorem approach_iterate (angle target : Angle) {step : Int32} (positive : 0 ≤ step.toInt)
    {count : Nat} (enough : 4095 ⌈/⌉ step.toInt.toNat ≤ count) :
    ((·.approach target step)^[count] angle).approach target step =
      (·.approach target step)^[count] angle :=
  Chase.iterate_of_semiconj units_injective (fun other => units_approach other target positive)
    angle.units.isLt target.units.isLt enough

/-- A heading that moves at all rests on its target only. -/
theorem eq_of_approach_eq {angle target : Angle} {step : Int32} (moves : 0 < step.toInt)
    (still : angle.approach target step = angle) : angle = target := by
  have follows := units_approach angle target (Int.le_of_lt moves)
  rw [still] at follows
  exact units_injective (Chase.eq_target_of_chase_eq angle.units.isLt target.units.isLt (by omega)
    follows.symm)

end Angle
end Rotorcraft
