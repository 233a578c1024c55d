import Rotorcraft.Proofs.Chase

/-! # How long a chase takes

A chase from below climbs to its target, stride by stride. From a stride above at most it is over with one
step. From farther above it climbs as well, up to the end of the ring, and goes on from its beginning: there
it comes out below the target, and climbs to it, or above the target by less than a stride. So the steps of
every chase are counted, and it leads around the ring once or not at all.
-/

namespace Rotorcraft
namespace Chase

def after (width stride target place steps : Nat) : Nat :=
  (chase width stride target)^[steps] place

/-- A step that leads around the ring. -/
def Rounds (width stride target place : Nat) : Prop :=
  target + stride < place ∧ width ≤ place + stride

/-- The way of a chase around the ring, in `count` steps. -/
structure GoesRound (width stride target place count : Nat) : Prop where
  length : count = (width - (place - target)) ⌈/⌉ stride ∨
    count = (width - (place - target)) ⌈/⌉ stride + 1
  /-- It climbs as long as there is room, leads around the ring once, and then climbs or is over. -/
  path : ∃ top < count,
    (∀ steps ≤ top, after width stride target place steps = place + steps * stride) ∧
    after width stride target place (top + 1) + width = place + (top + 1) * stride ∧
    ∀ steps, top < steps → steps < count →
      after width stride target place (steps + 1) = target ∨
        after width stride target place (steps + 1) = after width stride target place steps + stride ∧
          after width stride target place (steps + 1) < target
  once : ∃! steps, Rounds width stride target (after width stride target place steps)

/-- A chase that takes `count` steps, and which way it takes. -/
structure Takes (width stride target place count : Nat) : Prop where
  there : ∀ steps, after width stride target place steps = target ↔ count ≤ steps
  bound : count ≤ (width - 1) ⌈/⌉ stride
  /-- To a target above it climbs with every step and does not pass it. -/
  below : place ≤ target → count = (target - place) ⌈/⌉ stride ∧
    ∀ steps < count, after width stride target place steps < after width stride target place (steps + 1) ∧
      after width stride target place (steps + 1) ≤ target
  near : target < place → place ≤ target + stride → count = 1
  above : target + stride < place → GoesRound width stride target place count

variable {width stride target place : Nat}

theorem chase_of_near (above : place ≤ target + stride) (below : target ≤ place + stride) :
    chase width stride target place = target := if_pos ⟨above, below⟩

theorem chase_of_far (far : target + stride < place ∨ place + stride < target) :
    chase width stride target place = (place + stride) % width := if_neg (by omega)

@[simp] theorem after_zero : after width stride target place 0 = place := rfl

theorem after_succ (steps : Nat) : after width stride target place (steps + 1) =
    chase width stride target (after width stride target place steps) :=
  Function.iterate_succ_apply' ..

theorem after_add (first second : Nat) : after width stride target place (first + second) =
    after width stride target (after width stride target place first) second := by
  rw [Nat.add_comm, after, Function.iterate_add_apply]
  rfl

theorem after_target (steps : Nat) : after width stride target target steps = target :=
  Function.iterate_fixed (chase_target width stride target) steps

/-- From below, a chase climbs until it is over. -/
theorem after_of_le (aim : target < width) (below : place ≤ target) (steps : Nat) :
    after width stride target place steps = min target (place + steps * stride) := by
  induction steps with
  | zero =>
    rw [after_zero]
    omega
  | succ steps ih =>
    rw [after_succ, ih, Nat.succ_mul]
    by_cases near : target ≤ place + steps * stride + stride
    · rw [chase_of_near (by omega) (by omega)]
      omega
    · rw [chase_of_far (by omega), Nat.mod_eq_of_lt (by omega)]
      omega

/-- From farther than a stride above, a chase climbs as long as there is room. -/
theorem after_of_far (far : target + stride < place) {steps : Nat}
    (room : place + steps * stride < width) :
    after width stride target place steps = place + steps * stride := by
  induction steps with
  | zero =>
    rw [after_zero]
    omega
  | succ steps ih =>
    rw [Nat.succ_mul] at room ⊢
    rw [after_succ, ih (by omega), chase_of_far (by omega), Nat.mod_eq_of_lt (by omega)]
    omega

/-- What is a stride above the target at most does not get farther above it. -/
theorem after_le (low : place ≤ target + stride) (steps : Nat) :
    after width stride target place steps ≤ target + stride := by
  induction steps with
  | zero => exact low
  | succ steps ih =>
    rw [after_succ]
    by_cases near : target ≤ after width stride target place steps + stride
    · rw [chase_of_near ih near]
      exact Nat.le_add_right target stride
    · rw [chase_of_far (by omega)]
      have reduced := Nat.mod_le (after width stride target place steps + stride) width
      omega

section Count

variable (moves : 0 < stride)
include moves

theorem ceilDiv_le {gap count : Nat} : gap ⌈/⌉ stride ≤ count ↔ gap ≤ count * stride := by
  rw [ceilDiv_le_iff_le_mul moves, Nat.mul_comm]

/-- Where the end of the ring is passed. -/
theorem exists_top (inside : place < width) :
    ∃ top, place + top * stride < width ∧ width ≤ place + (top + 1) * stride := by
  have parts := Nat.div_add_mod' (width - 1 - place) stride
  have small := Nat.mod_lt (width - 1 - place) moves
  refine ⟨(width - 1 - place) / stride, by omega, ?_⟩
  rw [Nat.succ_mul]
  omega

/-- Every chase is over when its steps cover the ring. -/
theorem after_of_late (inside : place < width) (aim : target < width) :
    after width stride target place ((width - 1) ⌈/⌉ stride) = target := by
  have way := way_lt stride inside aim
  have enough : width - 1 ≤ stride * ((width - 1) ⌈/⌉ stride) :=
    (ceilDiv_le_iff_le_mul moves).mp (Nat.le_refl _)
  exact iterate_eq_target inside aim (by omega)

/-- From below, as many steps are taken as strides cover the gap. -/
theorem after_eq_iff_of_le (aim : target < width) (below : place ≤ target) (steps : Nat) :
    after width stride target place steps = target ↔ (target - place) ⌈/⌉ stride ≤ steps := by
  rw [after_of_le aim below, ceilDiv_le moves]
  omega

/-- From below, every step that is needed climbs, and none passes the target. -/
theorem climbs_of_le (aim : target < width) (below : place ≤ target) {steps : Nat}
    (early : steps < (target - place) ⌈/⌉ stride) :
    after width stride target place steps < after width stride target place (steps + 1) ∧
      after width stride target place (steps + 1) ≤ target := by
  have needed := mt (ceilDiv_le moves).mpr (Nat.not_le.mpr early)
  rw [after_of_le aim below, after_of_le aim below, Nat.succ_mul]
  omega

/-- From a stride above at most, one step is taken. -/
theorem after_eq_iff_of_near (above : target < place) (near : place ≤ target + stride) (steps : Nat) :
    after width stride target place steps = target ↔ 1 ≤ steps := by
  cases steps with
  | zero =>
    rw [after_zero]
    omega
  | succ steps =>
    have landed : after width stride target place 1 = target := chase_of_near near (by omega)
    rw [Nat.add_comm, after_add, landed, after_target]
    omega

section Around

variable (far : target + stride < place) {top : Nat} (room : place + top * stride < width)
include far room

omit moves in
/-- Up to the end of the ring the chase climbs. -/
theorem after_of_le_top {steps : Nat} (early : steps ≤ top) :
    after width stride target place steps = place + steps * stride := by
  have fewer := Nat.mul_le_mul_right stride early
  exact after_of_far far (by omega)

variable (passed : width ≤ place + (top + 1) * stride)
include passed

omit moves in
/-- With one step more it goes on from the beginning. -/
theorem after_top :
    after width stride target place (top + 1) + width = place + (top + 1) * stride := by
  rw [Nat.succ_mul] at passed ⊢
  rw [after_succ, after_of_far far room, chase_of_far (by omega), Nat.mod_eq_sub_mod (by omega),
    Nat.mod_eq_of_lt (by omega)]
  omega

omit moves in
theorem existsUnique_rounds :
    ∃! steps, Rounds width stride target (after width stride target place steps) := by
  have emerged := after_top far room passed
  rw [Nat.succ_mul] at emerged
  refine ⟨top, ?_, ?_⟩
  · have highest := after_of_far far room
    rw [Nat.succ_mul] at passed
    constructor <;> omega
  · rintro steps ⟨above, around⟩
    rcases Nat.lt_trichotomy steps top with early | now | late
    · have climbed := after_of_le_top far room (Nat.le_of_lt early)
      have fewer := Nat.mul_le_mul_right stride (Nat.succ_le_of_lt early)
      rw [Nat.succ_mul] at fewer
      omega
    · exact now
    · obtain ⟨more, rfl⟩ : ∃ more, steps = top + 1 + more := Nat.exists_eq_add_of_le late
      have low : after width stride target place (top + 1) ≤ target + stride := by omega
      have later : after width stride target place (top + 1 + more) ≤ target + stride := by
        rw [after_add]
        exact after_le low more
      omega

omit passed in
/-- The steps up to the end of the ring do not cover the way around to the target. -/
theorem top_lt_ceilDiv : top < (width - (place - target)) ⌈/⌉ stride := by
  rw [← Nat.not_le, ceilDiv_le moves]
  omega

/-- From below the target, the chase climbs on until it is over. -/
theorem goesRound_of_low (aim : target < width)
    (low : after width stride target place (top + 1) ≤ target) :
    (∀ steps, after width stride target place steps = target ↔
        (width - (place - target)) ⌈/⌉ stride ≤ steps) ∧
      GoesRound width stride target place ((width - (place - target)) ⌈/⌉ stride) := by
  have emerged := after_top far room passed
  have climbs (more : Nat) : after width stride target place (top + 1 + more) =
      min target (after width stride target place (top + 1) + more * stride) := by
    rw [after_add, after_of_le aim low]
  refine ⟨?_, .inl rfl, ⟨top, top_lt_ceilDiv moves far room, ?_, emerged, ?_⟩,
    existsUnique_rounds far room passed⟩
  · intro steps
    rw [ceilDiv_le moves]
    by_cases early : steps ≤ top
    · have climbed := after_of_le_top far room early
      have fewer := Nat.mul_le_mul_right stride early
      omega
    · obtain ⟨more, rfl⟩ : ∃ more, steps = top + 1 + more := Nat.exists_eq_add_of_le (by omega)
      rw [climbs, Nat.add_mul (top + 1)]
      omega
  · intro steps early
    exact after_of_le_top far room early
  · intro steps late _
    obtain ⟨more, rfl⟩ : ∃ more, steps = top + 1 + more := Nat.exists_eq_add_of_le late
    have now := climbs more
    have soon := climbs (more + 1)
    rw [Nat.succ_mul, ← Nat.add_assoc] at soon
    omega

/-- From above the target, which is then less than a stride away, one step leads there. -/
theorem goesRound_of_high (high : target < after width stride target place (top + 1)) :
    (∀ steps, after width stride target place steps = target ↔
        (width - (place - target)) ⌈/⌉ stride + 1 ≤ steps) ∧
      GoesRound width stride target place ((width - (place - target)) ⌈/⌉ stride + 1) := by
  have emerged := after_top far room passed
  have next : (top + 1) * stride = top * stride + stride := Nat.succ_mul top stride
  have length : (width - (place - target)) ⌈/⌉ stride = top + 1 := by
    have late := top_lt_ceilDiv moves far room
    have covered : (width - (place - target)) ⌈/⌉ stride ≤ top + 1 := by
      rw [ceilDiv_le moves]
      omega
    omega
  have last (more : Nat) : after width stride target place (top + 1 + more) = target ↔ 1 ≤ more := by
    rw [after_add]
    exact after_eq_iff_of_near moves high (by omega) more
  rw [length]
  refine ⟨?_, .inr (by rw [length]), ⟨top, by omega, ?_, emerged, ?_⟩,
    existsUnique_rounds far room passed⟩
  · intro steps
    by_cases early : steps ≤ top
    · have climbed := after_of_le_top far room early
      omega
    · obtain ⟨more, rfl⟩ : ∃ more, steps = top + 1 + more := Nat.exists_eq_add_of_le (by omega)
      rw [last]
      omega
  · intro steps early
    exact after_of_le_top far room early
  · intro steps late few
    obtain rfl : steps = top + 1 := by omega
    exact .inl ((last 1).mpr (Nat.le_refl 1))

end Around

/-- From farther than a stride above, as many steps are taken as strides cover the way around, or one more. -/
theorem exists_goesRound (inside : place < width) (aim : target < width) (far : target + stride < place) :
    ∃ count, (∀ steps, after width stride target place steps = target ↔ count ≤ steps) ∧
      GoesRound width stride target place count := by
  obtain ⟨top, room, passed⟩ := exists_top moves inside
  rcases Nat.lt_or_ge target (after width stride target place (top + 1)) with high | low
  · exact ⟨_, goesRound_of_high moves far room passed high⟩
  · exact ⟨_, goesRound_of_low moves far room passed aim low⟩

theorem exists_takes (inside : place < width) (aim : target < width) :
    ∃ count, Takes width stride target place count := by
  have late := after_of_late moves inside aim
  rcases Nat.lt_or_ge target place with above | below
  · rcases Nat.lt_or_ge (target + stride) place with far | near
    · obtain ⟨count, there, around⟩ := exists_goesRound moves inside aim far
      exact ⟨count, there, (there _).mp late, by omega, by omega, fun _ => around⟩
    · have there (steps : Nat) : after width stride target place steps = target ↔ 1 ≤ steps :=
        after_eq_iff_of_near moves above near steps
      exact ⟨1, there, (there _).mp late, by omega, fun _ _ => rfl, by omega⟩
  · have there := after_eq_iff_of_le moves aim below
    refine ⟨_, there, (there _).mp late, ?_, by omega, by omega⟩
    exact fun _ => ⟨rfl, fun steps early => climbs_of_le moves aim below early⟩

end Count
end Chase
end Rotorcraft
