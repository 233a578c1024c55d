import Rotorcraft.Proofs.ChaseTime

/-! # How long a pursuit takes

A target above is approached from below, one stride after the other. A target a stride below at most is
met at once. A target farther below is met from below as well: the value climbs to the top of its range,
goes on from the bottom, and there it may come out above the target, but then by less than a stride. So
the steps of every pursuit are counted, and it stays where they end. All of this is read off the chase that
a pursuit is among the places of its range.
-/

namespace Rotorcraft
namespace Pursuit

def after (pursuit : Pursuit) (maxStep : Int32) (steps : Nat) : Pursuit :=
  (·.step maxStep)^[steps] pursuit

/-- A pursuit that is settled from its step `count` on and not before. -/
def SettlesAt (pursuit : Pursuit) (maxStep : Int32) (count : Nat) : Prop :=
  ∀ steps, (pursuit.after maxStep steps).isSettled = true ↔ count ≤ steps

/-- What one step does. -/
structure StepsBy (pursuit : Pursuit) (maxStep : Int32) : Prop where
  /-- It lands on a target that is a step away at most. -/
  lands : ((pursuit.target.toInt - pursuit.current.toInt).natAbs : Int) ≤ maxStep.toInt →
    (pursuit.step maxStep).current = pursuit.target
  /-- Otherwise it adds the whole step, modulo the number of 16-bit values. -/
  climbs : maxStep.toInt < (pursuit.target.toInt - pursuit.current.toInt).natAbs →
    (65536 : Int) ∣ (pursuit.step maxStep).current.toInt - (pursuit.current.toInt + maxStep.toInt)
  target : (pursuit.step maxStep).target = pursuit.target
  /-- It tells whether it has settled the pursuit. -/
  reaches : pursuit.stepReaches maxStep = true ↔ (pursuit.step maxStep).isSettled = true
  /-- What is settled stays so. -/
  stays : pursuit.isSettled = true → pursuit.step maxStep = pursuit

section Step

variable {pursuit : Pursuit} {maxStep : Int32}

theorem isSettled_iff : pursuit.isSettled = true ↔ pursuit.current.toInt = pursuit.target.toInt := by
  rw [isSettled, beq_iff_eq, Int16.toInt_inj]

theorem step_of_near (above : pursuit.target.toInt ≤ pursuit.current.toInt + maxStep.toInt)
    (below : pursuit.current.toInt ≤ pursuit.target.toInt + maxStep.toInt) :
    (pursuit.step maxStep).current = pursuit.target := by
  simp only [step, approach]
  rw [if_neg (by omega), Int16.ofInt_toInt]

theorem step_of_far (far : maxStep.toInt < (pursuit.target.toInt - pursuit.current.toInt).natAbs) :
    (pursuit.step maxStep).current = Int16.ofInt (pursuit.current.toInt + maxStep.toInt) := by
  simp only [step, approach]
  rw [if_pos (by omega)]

theorem stepsBy (pursuit : Pursuit) (forward : 0 ≤ maxStep.toInt) : pursuit.StepsBy maxStep where
  lands near := step_of_near (by omega) (by omega)
  climbs far := by
    rw [step_of_far far, Int16.toInt_ofInt]
    exact Int.dvd_bmod_sub_self
  target := rfl
  reaches := by
    rw [isSettled_iff, stepReaches, Rotorcraft.reaches, beq_iff_eq]
    exact Iff.rfl
  stays settled := by
    have same : pursuit.current.toInt = pursuit.target.toInt := isSettled_iff.mp settled
    have landed : (pursuit.step maxStep).current = pursuit.current :=
      (step_of_near (by omega) (by omega)).trans (Int16.toInt_inj.mp same).symm
    exact congrArg (Pursuit.mk · pursuit.target) landed

end Step

section Steps

variable (pursuit : Pursuit) (maxStep : Int32)

@[simp] theorem after_zero : pursuit.after maxStep 0 = pursuit := rfl

theorem after_succ (steps : Nat) :
    pursuit.after maxStep (steps + 1) = (pursuit.after maxStep steps).step maxStep :=
  Function.iterate_succ_apply' ..

@[simp] theorem target_after (steps : Nat) : (pursuit.after maxStep steps).target = pursuit.target := by
  induction steps with
  | zero => rfl
  | succ steps ih => rw [after_succ, ← ih]; rfl

variable {pursuit maxStep}

/-- What has settled stays where it is. -/
theorem after_of_settled (forward : 0 ≤ maxStep.toInt) (settled : pursuit.isSettled = true)
    (steps : Nat) : pursuit.after maxStep steps = pursuit := by
  induction steps with
  | zero => rfl
  | succ steps ih => rw [after_succ, ih, (pursuit.stepsBy forward).stays settled]

theorem after_of_still (still : maxStep = 0) (steps : Nat) : pursuit.after maxStep steps = pursuit := by
  subst still
  induction steps with
  | zero => rfl
  | succ steps ih =>
    rw [after_succ, ih]
    by_cases settled : pursuit.isSettled = true
    · exact (pursuit.stepsBy (by decide)).stays settled
    · have far : (0 : Int32).toInt < (pursuit.target.toInt - pursuit.current.toInt).natAbs := by
        rw [isSettled_iff] at settled
        rw [Int32.toInt_zero]
        omega
      have kept : (pursuit.step 0).current = pursuit.current := by
        rw [step_of_far far, Int32.toInt_zero, Int.add_zero, Int16.ofInt_toInt]
      exact congrArg (Pursuit.mk · pursuit.target) kept

/-- Seen from the least value on, a pursuit is a chase among the places. -/
theorem place_after (forward : 0 ≤ maxStep.toInt) (steps : Nat) :
    place (pursuit.after maxStep steps).current =
      Chase.after 65536 maxStep.toInt.toNat (place pursuit.target) (place pursuit.current) steps := by
  induction steps with
  | zero => rfl
  | succ steps ih =>
    rw [after_succ, Chase.after_succ, ← ih, ← target_after pursuit maxStep steps]
    exact place_approach _ _ forward

/-- A pursuit is settled where the chase is at its target. -/
theorem isSettled_after_iff (forward : 0 ≤ maxStep.toInt) (steps : Nat) :
    (pursuit.after maxStep steps).isSettled = true ↔
      Chase.after 65536 maxStep.toInt.toNat (place pursuit.target) (place pursuit.current) steps =
        place pursuit.target := by
  rw [isSettled, beq_iff_eq, target_after, ← place_after forward, place_injective.eq_iff]

end Steps

/-- How many strides cover a gap. -/
def strides (gap : Int) (maxStep : Int32) : Nat :=
  gap.toNat ⌈/⌉ maxStep.toInt.toNat

/-- How far it is to a target below on the way around. -/
def detour (pursuit : Pursuit) : Int :=
  65536 - (pursuit.current.toInt - pursuit.target.toInt)

/-- The way of a pursuit around the range of the values, in `count` steps. -/
structure GoesAround (pursuit : Pursuit) (maxStep : Int32) (count : Nat) : Prop where
  length : count = strides pursuit.detour maxStep ∨ count = strides pursuit.detour maxStep + 1
  /-- It climbs as long as there is room, passes the top once, and then climbs or has settled. -/
  path : ∃ top < count,
    (∀ steps ≤ top, (pursuit.after maxStep steps).current.toInt =
      pursuit.current.toInt + steps * maxStep.toInt) ∧
    (pursuit.after maxStep (top + 1)).current.toInt =
      pursuit.current.toInt + (top + 1 : Nat) * maxStep.toInt - 65536 ∧
    ∀ steps, top < steps → steps < count →
      (pursuit.after maxStep (steps + 1)).current = pursuit.target ∨
        (pursuit.after maxStep (steps + 1)).current.toInt =
            (pursuit.after maxStep steps).current.toInt + maxStep.toInt ∧
          (pursuit.after maxStep (steps + 1)).current.toInt < pursuit.target.toInt

/-- A pursuit that takes `count` steps, and which way it takes. -/
structure Settles (pursuit : Pursuit) (maxStep : Int32) (count : Nat) : Prop where
  settled : pursuit.SettlesAt maxStep count
  bound : count ≤ strides 65535 maxStep
  /-- To a target above it climbs with every step and does not pass it. -/
  below : pursuit.current.toInt < pursuit.target.toInt →
    count = strides (pursuit.target.toInt - pursuit.current.toInt) maxStep ∧
      ∀ steps < count, (pursuit.after maxStep steps).current.toInt <
          (pursuit.after maxStep (steps + 1)).current.toInt ∧
        (pursuit.after maxStep (steps + 1)).current.toInt ≤ pursuit.target.toInt
  near : pursuit.target.toInt < pursuit.current.toInt →
    pursuit.current.toInt - pursuit.target.toInt ≤ maxStep.toInt → count = 1
  above : maxStep.toInt < pursuit.current.toInt - pursuit.target.toInt →
    pursuit.GoesAround maxStep count

section Count

variable {pursuit : Pursuit} {maxStep : Int32}

theorem natCast_place (value : Int16) : (place value : Int) = value.toInt + 32768 := by
  have bottom := value.le_toInt
  rw [place]
  omega

/-- The way of the chase around the ring is the one of the pursuit around the range of the values. -/
theorem goesAround_of_goesRound {count : Nat} (forward : 0 ≤ maxStep.toInt)
    (above : pursuit.target.toInt < pursuit.current.toInt)
    (around : Chase.GoesRound 65536 maxStep.toInt.toNat (place pursuit.target) (place pursuit.current) count) :
    pursuit.GoesAround maxStep count := by
  have start := natCast_place pursuit.current
  have aim := natCast_place pursuit.target
  have gap : 65536 - (place pursuit.current - place pursuit.target) = pursuit.detour.toNat := by
    rw [detour]
    omega
  obtain ⟨length, ⟨top, early, climbs, emerged, later⟩, _⟩ := around
  rw [gap] at length
  simp only [← place_after forward] at climbs emerged later
  obtain ⟨stride, equation⟩ := Int.eq_ofNat_of_zero_le forward
  simp only [equation, Int.toNat_natCast] at climbs emerged later
  refine ⟨length, top, early, ?_, ?_, ?_⟩
  · intro steps room
    have climbed := climbs steps room
    have here := natCast_place (pursuit.after maxStep steps).current
    rw [equation]
    omega
  · have here := natCast_place (pursuit.after maxStep (top + 1)).current
    rw [equation]
    omega
  · intro steps late few
    have here := natCast_place (pursuit.after maxStep steps).current
    have next := natCast_place (pursuit.after maxStep (steps + 1)).current
    rcases later steps late few with there | climbed
    · exact .inl (place_injective there)
    · exact .inr (by omega)

theorem exists_settles (moves : 0 < maxStep.toInt) (pursuit : Pursuit) :
    ∃ count, pursuit.Settles maxStep count := by
  have forward := Int.le_of_lt moves
  have start := natCast_place pursuit.current
  have aim := natCast_place pursuit.target
  obtain ⟨count, takes⟩ : ∃ count, Chase.Takes 65536 maxStep.toInt.toNat _ _ count :=
    Chase.exists_takes (by omega) (place_lt pursuit.current) (place_lt pursuit.target)
  refine ⟨count, ?_, takes.bound, ?_, ?_, ?_⟩
  · intro steps
    rw [isSettled_after_iff forward, takes.there]
  · intro below
    obtain ⟨length, climbs⟩ := takes.below (by omega)
    constructor
    · rw [length, strides]
      congr 1
      omega
    · intro steps early
      have climb := climbs steps early
      have now := natCast_place (pursuit.after maxStep steps).current
      have soon := natCast_place (pursuit.after maxStep (steps + 1)).current
      rw [← place_after forward, ← place_after forward] at climb
      omega
  · intro above near
    exact takes.near (by omega) (by omega)
  · intro far
    exact goesAround_of_goesRound forward (by omega) (takes.above (by omega))

end Count

/-- A pursuit with steps that are not negative makes each of them as `StepsBy` says. If they are not zero,
it settles after a number of them that is known, and if they are, it does not move. -/
theorem pursuit_settles (pursuit : Pursuit) {maxStep : Int32} (forward : 0 ≤ maxStep.toInt) :
    (∀ steps, (pursuit.after maxStep steps).StepsBy maxStep) ∧
      (0 < maxStep.toInt → ∃ count, pursuit.Settles maxStep count) ∧
      (maxStep = 0 → ∀ steps, pursuit.after maxStep steps = pursuit) :=
  ⟨fun _ => stepsBy _ forward, fun moves => exists_settles moves pursuit,
    fun still => after_of_still still⟩

/-- A pursuit that comes around the range above its target takes a step more than its detour has strides. -/
theorem pursuit_settles_around :
    let pursuit : Pursuit := ⟨32000, -32768⟩
    (0 : Int) ≤ (20000 : Int32).toInt ∧ strides pursuit.detour 20000 = 1 ∧
      (pursuit.after 20000 1).current = -13536 ∧ (pursuit.after 20000 2).isSettled = true ∧
      (∀ steps, (pursuit.after 20000 steps).StepsBy 20000) ∧ ∃ count, pursuit.Settles 20000 count := by
  intro pursuit
  obtain ⟨steps, settles, _⟩ := @pursuit_settles pursuit 20000 (by decide)
  exact ⟨by decide, by decide, by decide, by decide, steps, settles (by decide)⟩

end Pursuit
end Rotorcraft
