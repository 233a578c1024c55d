import Mathlib.Data.Nat.Bitwise
import Rotorcraft.Proofs.Faults

/-! # Pursuit velocities

A pursuit picks one of two targets by a flag, a field of two bits and a difference that wraps around, and divides
the offset to it. All of this is told here in integers: which target is picked, when the division goes through,
and that the velocity is the quotient, truncated toward zero. As long as the offset does not wrap, a velocity
never leads away from its target, and it is no less for a target that is farther away.
-/

namespace Rotorcraft

namespace ControlFlags

theorem intersects_secondaryPath (flags : ControlFlags) :
    flags.intersects .secondaryPath = flags.bits.toNat.testBit 1 := by
  have bit : flags.bits.toNat &&& 2 = (flags.bits.toNat.testBit 1).toNat * 2 := Nat.and_two_pow _ 1
  have word : (flags.bits &&& secondaryPath.bits).toNat = flags.bits.toNat &&& 2 := UInt16.toNat_and _ _
  rw [Bool.eq_iff_iff, intersects, bne_iff_ne, Ne, ← UInt16.toNat_inj, word, bit]
  cases flags.bits.toNat.testBit 1 <;> decide

theorem toNat_subMode (flags : ControlFlags) : flags.subMode.toNat = flags.bits.toNat / 4 % 4 := by
  have field : (flags.bits.toNat &&& 12) >>> 2 = flags.bits.toNat / 4 % 4 := by
    rw [Nat.shiftRight_and_distrib, Nat.shiftRight_eq_div_pow]
    exact Nat.and_two_pow_sub_one_eq_mod _ 2
  have small := Nat.mod_lt (flags.bits.toNat / 4) (by decide : 0 < 4)
  rw [subMode, UInt16.toNat_toUInt8, UInt16.toNat_shiftRight, UInt16.toNat_and]
  change ((flags.bits.toNat &&& 12) >>> 2) % 256 = _
  rw [field]
  omega

end ControlFlags

namespace FixedPoint

/-- Nothing is divided by zero, and the least word not by `-1`. -/
theorem fault?_eq_none_iff {numerator denominator : Int32} : fault? numerator denominator = none ↔
    denominator.toInt ≠ 0 ∧ ¬(denominator.toInt = -1 ∧ numerator.toInt = -0x80000000) := by
  have zero : denominator = 0 ↔ denominator.toInt = 0 := Int32.toInt_inj.symm
  have one : denominator = -1 ↔ denominator.toInt = -1 := Int32.toInt_inj.symm
  have least : numerator = Int32.minValue ↔ numerator.toInt = -0x80000000 := Int32.toInt_inj.symm
  rw [Ne, ← zero, ← one, ← least, fault?]
  split_ifs with byZero overflow
  · simp [byZero]
  · simp [overflow]
  · exact iff_of_true rfl ⟨byZero, overflow⟩

end FixedPoint

/-- An offset is divided with truncation toward zero: what is left over is less than the divisor, and it lies on
the side of the offset. -/
structure Truncates (offset divisor quotient : Int) : Prop where
  eq_tdiv : quotient = offset.tdiv divisor
  rest_lt : (offset - quotient * divisor).natAbs < divisor.natAbs
  rest_sign : offset - quotient * divisor = 0 ∨ (offset - quotient * divisor).sign = offset.sign

theorem truncates_tdiv (offset : Int) {divisor : Int} (nonzero : divisor ≠ 0) :
    Truncates offset divisor (offset.tdiv divisor) := by
  have rest : offset - offset.tdiv divisor * divisor = offset.tmod divisor := by
    rw [Int.tmod_def, Int.mul_comm]
  refine ⟨rfl, ?_, ?_⟩
  · rw [rest, Int.natAbs_tmod]
    exact Nat.mod_lt _ (Int.natAbs_pos.mpr nonzero)
  · rw [rest, Int.sign_tmod]
    split
    · next divides => exact .inl (Int.tmod_eq_zero_of_dvd divides)
    · exact .inr rfl

namespace DispatchStage

/-- How far a target lies ahead of an actor. -/
def gap (actor : Actor) (target : Vec3) : Int :=
  target.x.toInt - actor.position.x.toInt

/-- The same, as a signed word of 32 bits holds it. -/
def heldGap (actor : Actor) (target : Vec3) : Int :=
  (gap actor target).bmod 0x100000000

/-- The primary target is picked on the primary path, unless it is nearer than the threshold of the sub-mode. -/
def PicksPrimary (frame : Frame) (actor : Actor) : Prop :=
  actor.flags.bits.toNat.testBit 1 = false ∧
    frame.config.pursuitThresholds[actor.flags.bits.toNat / 4 % 4].toInt ≤
      (heldGap actor frame.reference.primaryTarget).natAbs

instance (frame : Frame) (actor : Actor) : Decidable (PicksPrimary frame actor) :=
  inferInstanceAs (Decidable (_ ∧ _))

def goal (frame : Frame) (actor : Actor) : Vec3 :=
  if PicksPrimary frame actor then frame.reference.primaryTarget else frame.reference.secondaryTarget

theorem toInt_sub_position (actor : Actor) (target : Vec3) :
    (target.x - actor.position.x).toInt = heldGap actor target := Int32.toInt_sub _ _

theorem toInt_threshold (config : Config) (flags : ControlFlags) :
    (config.threshold flags).toInt = config.pursuitThresholds[flags.bits.toNat / 4 % 4].toInt :=
  congrArg (fun index => (config.pursuitThresholds.get index).toInt) (Fin.ext flags.toNat_subMode)

/-- What is divided is the offset to the target that is pursued. -/
theorem toInt_pursuedOffset (frame : Frame) (actor : Actor) :
    (pursuedOffset frame actor).toInt = heldGap actor (goal frame actor) := by
  have primary : (primaryOffset frame actor).toInt = heldGap actor frame.reference.primaryTarget :=
    toInt_sub_position _ _
  have picked : (!actor.hasFlag .secondaryPath ∧
      (frame.config.threshold actor.flags).toInt ≤ (primaryOffset frame actor).toInt.natAbs) ↔
      PicksPrimary frame actor := by
    rw [PicksPrimary, Actor.hasFlag, ControlFlags.intersects_secondaryPath, Bool.not_eq_true', primary,
      toInt_threshold]
  rw [pursuedOffset, goal]
  by_cases picks : PicksPrimary frame actor
  · rw [if_pos (picked.mpr picks), if_pos picks, primary]
  · rw [if_neg (mt picked.mp picks), if_neg picks]
    exact toInt_sub_position _ _

def velocity (frame : Frame) (actor : Actor) : Int :=
  (dispatch frame actor).actor.derived.velocity.toInt

/-- A dispatch that has gone through. -/
def Succeeds (frame : Frame) (actor : Actor) : Prop :=
  ∃ mode, (dispatch frame actor).outcome = .ok mode

/-- The division of a pursuit has a quotient, and the quotient fits. -/
def Divides (frame : Frame) (actor : Actor) : Prop :=
  frame.config.pursuitDivisor.toInt ≠ 0 ∧
    ¬(frame.config.pursuitDivisor.toInt = -1 ∧ heldGap actor (goal frame actor) = -0x80000000)

/-- A dispatch of a pursuit that goes through: it divides, and writes the velocity and the flag of safe division
only. -/
structure Pursues (frame : Frame) (actor : Actor) : Prop where
  outcome : (dispatch frame actor).outcome = .ok .pursue
  kept : ∃ flags velocity, (dispatch frame actor).actor =
      { actor with flags := flags, derived := { actor.derived with velocity := velocity } } ∧
    ControlFlags.SameOutside .divisionSafe flags actor.flags
  velocity : Truncates (heldGap actor (goal frame actor)) frame.config.pursuitDivisor.toInt (velocity frame actor)

/-- A pursuit by a positive divisor, of a target whose difference to the actor fits in a word. -/
structure Reaches (frame : Frame) (actor : Actor) : Prop where
  pursuing : actor.status.selector = 1
  forward : 0 < frame.config.pursuitDivisor.toInt
  fits : -0x80000000 ≤ gap actor (goal frame actor) ∧ gap actor (goal frame actor) ≤ 0x7FFFFFFF

variable {frame : Frame} {actor : Actor}

theorem branch_of_pursuing (pursuing : actor.status.selector = 1) :
    branch frame actor = pursue frame actor := by
  rw [branch, Actor.mode, actor.status.mode_eq_pursue_iff.mpr pursuing]

theorem pursues_of_divides (pursuing : actor.status.selector = 1) (divides : Divides frame actor) :
    Pursues frame actor := by
  have mode : actor.mode = .pursue := actor.status.mode_eq_pursue_iff.mpr pursuing
  have unguarded : FixedPoint.fault? (pursuedOffset frame actor) frame.config.pursuitDivisor = none := by
    rw [FixedPoint.fault?_eq_none_iff, toInt_pursuedOffset]
    exact divides
  obtain ⟨_, quotient⟩ := FixedPoint.quotient_of_unguarded unguarded
  rw [toInt_pursuedOffset] at quotient
  have success : branch frame actor = .ok { actor with
      derived := { actor.derived with
        velocity := pursuedOffset frame actor / frame.config.pursuitDivisor } } := by
    rw [branch_of_pursuing pursuing, pursue, FixedPoint.safeDivide, unguarded]
    rfl
  refine ⟨?_, ?_, ?_⟩
  · rw [dispatch, success, mode]
  · rw [dispatch, success]
    exact ⟨_, _, rfl, .insert _ _⟩
  · have written : velocity frame actor = (pursuedOffset frame actor / frame.config.pursuitDivisor).toInt := by
      rw [velocity, dispatch, success]
      rfl
    rw [written, quotient]
    exact truncates_tdiv _ divides.1

/-- A pursuit goes through if its division has a quotient that fits. -/
theorem succeeds_iff (pursuing : actor.status.selector = 1) : Succeeds frame actor ↔ Divides frame actor := by
  constructor
  · rintro ⟨mode, success⟩
    by_contra refused
    have guarded : FixedPoint.fault? (pursuedOffset frame actor) frame.config.pursuitDivisor ≠ none := by
      rw [Ne, FixedPoint.fault?_eq_none_iff, toInt_pursuedOffset]
      exact refused
    obtain ⟨fault, found⟩ := Option.ne_none_iff_exists'.mp guarded
    have failed : branch frame actor = .error fault := by
      rw [branch_of_pursuing pursuing, pursue, FixedPoint.safeDivide, found]
      rfl
    rw [dispatch, failed] at success
    cases success
  · intro divides
    exact ⟨_, (pursues_of_divides pursuing divides).outcome⟩

namespace Reaches

theorem divides (reaches : Reaches frame actor) : Divides frame actor := by
  have forward := reaches.forward
  constructor
  · omega
  · omega

theorem velocity_eq (reaches : Reaches frame actor) :
    velocity frame actor = (gap actor (goal frame actor)).tdiv frame.config.pursuitDivisor.toInt := by
  obtain ⟨low, high⟩ := reaches.fits
  have held : heldGap actor (goal frame actor) = gap actor (goal frame actor) :=
    Int.bmod_eq_of_le (by omega) (by omega)
  rw [(pursues_of_divides reaches.pursuing reaches.divides).velocity.eq_tdiv, held]

/-- A velocity does not lead away from the target. -/
theorem sign_velocity (reaches : Reaches frame actor) :
    velocity frame actor = 0 ∨ (velocity frame actor).sign = (gap actor (goal frame actor)).sign := by
  rw [← Int.sign_eq_zero_iff_zero, reaches.velocity_eq, Int.sign_tdiv, Int.sign_eq_one_of_pos reaches.forward,
    Int.mul_one]
  split
  · exact .inl rfl
  · exact .inr rfl

theorem natAbs_velocity (reaches : Reaches frame actor) : (velocity frame actor).natAbs =
    (gap actor (goal frame actor)).natAbs / frame.config.pursuitDivisor.toInt.natAbs := by
  rw [reaches.velocity_eq]
  exact Int.natAbs_tdiv _ _

end Reaches

/-- A pursuit that succeeds has divided the offset to the target that it picked, and written nothing else but the
flag of safe division. Of two pursuits whose offsets do not wrap, the one of the farther target is no slower, and
none leads away. -/
theorem pursuit_velocity (frame : Frame) {actor : Actor} (pursuing : actor.status.selector = 1) :
    (Succeeds frame actor ↔ Divides frame actor) ∧ (Succeeds frame actor → Pursues frame actor) ∧
      (Reaches frame actor →
        Succeeds frame actor ∧
        (velocity frame actor = 0 ∨
          (velocity frame actor).sign = (gap actor (goal frame actor)).sign) ∧
        ∀ (otherFrame : Frame) (other : Actor), Reaches otherFrame other →
          otherFrame.config.pursuitDivisor = frame.config.pursuitDivisor →
          (gap actor (goal frame actor)).natAbs ≤ (gap other (goal otherFrame other)).natAbs →
            (velocity frame actor).natAbs ≤ (velocity otherFrame other).natAbs) := by
  have success : Succeeds frame actor ↔ Divides frame actor := succeeds_iff pursuing
  refine ⟨success, ?_, ?_⟩
  · intro succeeds
    exact pursues_of_divides pursuing (success.mp succeeds)
  · intro reaches
    refine ⟨success.mpr reaches.divides, reaches.sign_velocity, ?_⟩
    intro otherFrame other otherReaches same farther
    rw [reaches.natAbs_velocity, otherReaches.natAbs_velocity, same]
    exact Nat.div_le_div_right farther

/-- The least difference that fits is no nearer than any threshold, and the pursuit of it is faster than that of a
target on the secondary path. -/
theorem pursuit_velocity_of_least :
    let config : Config :=
      { pursuitDivisor := 7, pursuitThresholds := #v[0, 64, 256, 0x7FFFFFFF] }
    let frame : Frame :=
      { config := config
        reference := { primaryTarget := { x := -0x7FFFFFFF }, secondaryTarget := { x := 20 } } }
    let far : Actor :=
      { id := ⟨.ofNat 1⟩, name := "far", position := { x := 1 }, status := ⟨0x4100⟩, flags := ⟨0x1C⟩ }
    let near : Actor :=
      { id := ⟨.ofNat 2⟩, name := "near", position := { x := 40 }, status := ⟨0x0100⟩, flags := ⟨0x0E⟩ }
    (PicksPrimary frame far ∧ velocity frame far = -306783378) ∧
      (¬PicksPrimary frame near ∧ velocity frame near = -2) ∧
      Pursues frame near ∧ Pursues frame far ∧
      (velocity frame near).natAbs ≤ (velocity frame far).natAbs := by
  intro config frame far near
  have nearReaches : Reaches frame near := ⟨by decide, by decide, by decide⟩
  have farReaches : Reaches frame far := ⟨by decide, by decide, by decide⟩
  obtain ⟨_, nearPursues, nearMoves⟩ := pursuit_velocity frame nearReaches.pursuing
  obtain ⟨_, farPursues, farMoves⟩ := pursuit_velocity frame farReaches.pursuing
  refine ⟨by decide, by decide, nearPursues (nearMoves nearReaches).1, farPursues (farMoves farReaches).1, ?_⟩
  exact (nearMoves nearReaches).2.2 frame far farReaches rfl (by decide)

end DispatchStage
end Rotorcraft
