import Rotorcraft.Proofs.ChaseTime
import Rotorcraft.Proofs.Rest
import Rotorcraft.Proofs.WellFormed

/-! # A heading and its aim

While attraction is active and the handle of an actor leads to a turret, every run of the motion stage turns
the heading by its spin and then takes it a step toward the aim of the turret. Directions lie on a circle, but
the step is made among their representatives: an aim that lies below is reached through zero unless it is a
step away at most. Without spin the heading arrives after a number of runs that is known, and it stays. With
spin it stays as long as the spin does not take it from one end of the representatives to the other.
-/

namespace Rotorcraft

namespace Angle

/-- How far two directions are apart, the shorter way around. -/
def distance (first second : Angle) : Nat :=
  min ((first.toInt - second.toInt) % 4096).toNat ((second.toInt - first.toInt) % 4096).toNat

/-- By how much a pursuit step turns a heading: onto the aim if the representatives are a step apart at most,
and up by the whole step otherwise. -/
def turning (heading aim : Angle) (step : Int32) : Int :=
  if ((aim.toInt - heading.toInt).natAbs : Int) ≤ step.toInt then aim.toInt - heading.toInt else step.toInt

/-- A pursuit step that takes a heading through zero. -/
def PassesZero (heading aim : Angle) (step : Int32) : Prop :=
  heading.toInt + heading.turning aim step < 0 ∨ 4096 ≤ heading.toInt + heading.turning aim step

theorem toInt_range (angle : Angle) : 0 ≤ angle.toInt ∧ angle.toInt < 4096 := by
  have bound := angle.units.isLt
  rw [toInt]
  omega

theorem toInt_injective {first second : Angle} (same : first.toInt = second.toInt) : first = second :=
  units_injective (Int.ofNat_inj.mp same)

theorem toInt_ofInt (units : Int) : (ofInt units).toInt = units % 4096 := by
  have range := Int.emod_nonneg units (by decide : (4096 : Int) ≠ 0)
  rw [toInt, units_ofInt]
  omega

/-- Of a word, the residue is its low 12 bits. -/
theorem toInt_ofInt_toInt32 (word : Int32) : (ofInt word.toInt).toInt = (word &&& 0xFFF).toInt := by
  have mask : (word &&& 0xFFF).toBitVec.toNat = word.toBitVec.toNat % 4096 := by
    rw [Int32.toBitVec_and, BitVec.toNat_and]
    exact Nat.and_two_pow_sub_one_eq_mod _ 12
  have small : (word &&& 0xFFF).toInt = (word &&& 0xFFF).toBitVec.toNat := by
    apply BitVec.toInt_eq_toNat_of_lt
    omega
  -- A negative word is less than its bits by a multiple of 4096.
  have bits : word.toInt = word.toBitVec.toNat ∨ word.toInt = word.toBitVec.toNat - 2 ^ 32 := by
    change word.toBitVec.toInt = _ ∨ word.toBitVec.toInt = _
    rw [BitVec.toInt_eq_toNat_cond]
    split
    · exact .inl rfl
    · exact .inr rfl
  rw [toInt_ofInt, small, mask]
  omega

theorem toWord_ofWord (word : UInt16) : (ofWord word).toWord = word &&& 0xFFF := by
  have mask : (word &&& 0xFFF).toNat = word.toNat % 4096 := by
    rw [UInt16.toNat_and]
    exact Nat.and_two_pow_sub_one_eq_mod _ 12
  have units : (ofWord word).units.val = word.toNat % 4096 := by
    rw [ofWord, units_ofInt]
    omega
  apply UInt16.toNat_inj.mp
  rw [mask, toWord, units, UInt16.toNat_ofNat_of_lt']
  exact (Nat.mod_lt _ (by decide)).trans (by decide)

section Step

variable {heading aim : Angle} {step : Int32}

theorem approach_eq (heading aim : Angle) (step : Int32) :
    heading.approach aim step = ofInt (heading.toInt + heading.turning aim step) := by
  have headingRange := heading.toInt_range
  have aimRange := aim.toInt_range
  apply toInt_injective
  rw [approach, toInt_ofInt, toInt_ofInt]
  simp only [Rotorcraft.approach, toInt_ofInt_toInt, turning]
  by_cases near : ((aim.toInt - heading.toInt).natAbs : Int) ≤ step.toInt
  · rw [if_neg (by omega), if_pos near, toInt_ofInt_toInt]
    omega
  · rw [if_pos (by omega), if_neg near, Int16.toInt_ofInt, Int.bmod, Int16.size]
    omega

theorem natAbs_turning_le (heading aim : Angle) (forward : 0 ≤ step.toInt) :
    ((heading.turning aim step).natAbs : Int) ≤ step.toInt := by
  rw [turning]
  split <;> omega

/-- A turn moves a heading by no more than its amount. -/
theorem distance_turned_le (heading : Angle) (amount : Int) :
    (ofInt (heading.toInt + amount)).distance heading ≤ amount.natAbs := by
  have range := heading.toInt_range
  rw [distance, toInt_ofInt]
  omega

/-- The seam is passed where the chase of the representatives leads around its ring. -/
theorem passesZero_iff (forward : 0 ≤ step.toInt) : heading.PassesZero aim step ↔
    Chase.Rounds 4096 step.toInt.toNat aim.units.val heading.units.val := by
  have headingRange := heading.toInt_range
  have aimRange := aim.toInt_range
  rw [PassesZero, Chase.Rounds]
  by_cases near : ((aim.toInt - heading.toInt).natAbs : Int) ≤ step.toInt
  · rw [turning, if_pos near]
    simp only [toInt] at near headingRange aimRange ⊢
    omega
  · rw [turning, if_neg near]
    simp only [toInt] at near headingRange aimRange ⊢
    omega

end Step

/-- A spin from which a step brings a heading back to its aim: it stays among the representatives, or spin and
step together cover the circle, or the step undoes the spin. -/
def Holds (aim : Angle) (spin step : Int) : Prop :=
  (0 ≤ aim.toInt + spin ∧ aim.toInt + spin < 4096) ∨ 4096 ≤ spin.natAbs + step ∨ spin = -step

instance (aim : Angle) (spin step : Int) : Decidable (aim.Holds spin step) :=
  inferInstanceAs (Decidable (_ ∨ _ ∨ _))

/-- What a spin of one step at most does to a heading on its aim, and a step after it. -/
theorem approach_rotate_eq_iff (aim : Angle) {spin : Int16} {step : Int32}
    (small : (spin.toInt.natAbs : Int) ≤ step.toInt) :
    (aim.rotate spin).approach aim step = aim ↔ aim.Holds spin.toInt step.toInt := by
  have range := aim.toInt_range
  have turned : (aim.rotate spin).toInt = (aim.toInt + spin.toInt) % 4096 := toInt_ofInt _
  have back : (aim.rotate spin).approach aim step = aim ↔
      ((aim.rotate spin).toInt + (aim.rotate spin).turning aim step) % 4096 = aim.toInt := by
    rw [approach_eq, ← toInt_ofInt]
    constructor
    · intro same
      rw [same]
    · apply toInt_injective
  rw [back, turning, turned, Holds]
  split <;> omega

/-- How far it is from a heading to an aim below it on the way up, through zero. -/
def detour (heading aim : Angle) : Nat :=
  (4096 - (heading.toInt - aim.toInt)).toNat

/-- Headings, each a run of the motion stage after the one before, that come to an aim with `count` runs. -/
structure Arrives (headings : Nat → Angle) (aim : Angle) (step : Int32) (count : Nat) : Prop where
  there : ∀ runs, headings runs = aim ↔ count ≤ runs
  bound : count ≤ 4095 ⌈/⌉ step.toInt.toNat
  /-- To an aim above they climb with every run and do not pass it. -/
  below : (headings 0).toInt ≤ aim.toInt →
    count = (aim.toInt - (headings 0).toInt).toNat ⌈/⌉ step.toInt.toNat ∧
      ∀ runs < count, (headings runs).toInt < (headings (runs + 1)).toInt ∧
        (headings (runs + 1)).toInt ≤ aim.toInt
  near : aim.toInt < (headings 0).toInt → (headings 0).toInt - aim.toInt ≤ step.toInt → count = 1
  /-- An aim more than a step below is reached the other way around, through zero. -/
  above : step.toInt < (headings 0).toInt - aim.toInt →
    (count = (headings 0).detour aim ⌈/⌉ step.toInt.toNat ∨
      count = (headings 0).detour aim ⌈/⌉ step.toInt.toNat + 1) ∧
      ∃! run, (headings run).PassesZero aim step

/-- Headings that move by pursuit alone make a chase among the representatives. -/
theorem units_eq_after {headings : Nat → Angle} {aim : Angle} {step : Int32} (forward : 0 ≤ step.toInt)
    (moved : ∀ run, headings (run + 1) = (headings run).approach aim step) (runs : Nat) :
    (headings runs).units.val =
      Chase.after 4096 step.toInt.toNat aim.units.val (headings 0).units.val runs := by
  induction runs with
  | zero => rfl
  | succ runs ih => rw [moved, units_approach _ _ forward, Chase.after_succ, ih]

theorem exists_arrives {headings : Nat → Angle} {aim : Angle} {step : Int32} (moves : 0 < step.toInt)
    (moved : ∀ run, headings (run + 1) = (headings run).approach aim step) :
    ∃ count, Arrives headings aim step count := by
  have forward := Int.le_of_lt moves
  have units := units_eq_after forward moved
  obtain ⟨count, takes⟩ : ∃ count, Chase.Takes 4096 step.toInt.toNat aim.units.val _ count :=
    Chase.exists_takes (by omega) (headings 0).units.isLt aim.units.isLt
  refine ⟨count, ?_, takes.bound, ?_, ?_, ?_⟩
  · intro runs
    rw [← takes.there, ← units]
    constructor
    · intro same
      rw [same]
    · apply units_injective
  · intro below
    simp only [toInt] at below ⊢
    obtain ⟨length, climbs⟩ := takes.below (by omega)
    constructor
    · rw [length]
      congr 1
      omega
    · intro runs early
      have climb := climbs runs early
      rw [← units, ← units] at climb
      omega
  · intro above near
    simp only [toInt] at above near
    exact takes.near (by omega) (by omega)
  · intro far
    simp only [toInt] at far ⊢
    have around := takes.above (by omega)
    have gap : (headings 0).detour aim = 4096 - ((headings 0).units.val - aim.units.val) := by
      rw [detour, toInt, toInt]
      omega
    rw [gap]
    have passes (run : Nat) : (headings run).PassesZero aim step ↔ Chase.Rounds 4096 step.toInt.toNat
        aim.units.val (Chase.after 4096 step.toInt.toNat aim.units.val (headings 0).units.val run) := by
      rw [passesZero_iff forward, units]
    exact ⟨around.length, (existsUnique_congr passes).mpr around.once⟩

end Angle

/-- The handle of an actor that is attracted leads to a turret of this aim, and the heading follows it by this
step. -/
structure Actor.AimsAt (actor : Actor) (aim : Angle) (step : Int32) (frame : Frame) : Prop where
  active : actor.hasFlag .attractionActive = true
  turret : (frame.turret? actor).map Turret.aim = some aim
  step : frame.config.aimStep = step

namespace MotionStage

/-- A motion stage and an actor after runs of the stage, of which each has a frame of its own. -/
def runs (frames : Nat → Frame) (counters : MotionCounters) (actor : Actor) :
    Nat → MotionCounters × Actor
  | 0 => (counters, actor)
  | count + 1 =>
    let before := runs frames counters actor count
    let ran := run (frames count) before.1 before.2
    (ran.1, ran.2.actor)

def heading (frames : Nat → Frame) (counters : MotionCounters) (actor : Actor) (count : Nat) : Angle :=
  (runs frames counters actor count).2.orientation.yaw

variable {frames : Nat → Frame} {counters : MotionCounters} {actor : Actor} {aim : Angle} {step : Int32}

/-- A run turns the heading by its spin and takes it a step toward its aim. -/
theorem yaw_run {frame : Frame} (aims : actor.AimsAt aim step frame) :
    (run frame counters actor).2.actor.orientation.yaw =
      (actor.orientation.yaw.rotate actor.spin.yaw).approach aim step := by
  obtain ⟨turret, resolved, rfl⟩ := Option.map_eq_some_iff.mp aims.turret
  have same : frame.turret? (turn actor) = some turret := resolved
  rw [run_actor, if_pos aims.active, attracted_yaw same, aims.step]
  rfl

/-- Runs write the orientation and the altitude only. -/
theorem exists_runs (frames : Nat → Frame) (counters : MotionCounters) (actor : Actor) (count : Nat) :
    ∃ orientation altitude, (runs frames counters actor count).2 =
      { actor with orientation := orientation, altitude := altitude } := by
  induction count with
  | zero => exact ⟨_, _, rfl⟩
  | succ count ih =>
    obtain ⟨_, _, before⟩ := ih
    obtain ⟨orientation, altitude, after⟩ :=
      exists_run_actor (frames count) (runs frames counters actor count).1 (runs frames counters actor count).2
    refine ⟨orientation, altitude, after.trans ?_⟩
    rw [before]

/-- Every run does to the heading what the first one does. -/
theorem heading_succ (aims : ∀ run, actor.AimsAt aim step (frames run)) (count : Nat) :
    heading frames counters actor (count + 1) =
      ((heading frames counters actor count).rotate actor.spin.yaw).approach aim step := by
  obtain ⟨orientation, altitude, before⟩ := exists_runs frames counters actor count
  have still : (runs frames counters actor count).2.AimsAt aim step (frames count) := by
    rw [before]
    exact ⟨(aims count).active, (aims count).turret, (aims count).step⟩
  have spin : (runs frames counters actor count).2.spin = actor.spin := by rw [before]
  rw [← spin]
  exact yaw_run still

/-- Without spin, a heading arrives at its aim, on a way and after a number of runs that are known, and it
stays there. -/
theorem heading_arrives (counters : MotionCounters) (still : actor.spin.yaw = 0)
    (aims : ∀ run, actor.AimsAt aim step (frames run)) (moves : 0 < step.toInt) :
    let headings := heading frames counters actor
    (∀ run, (headings run).toWord.toNat < 4096 ∧
        headings (run + 1) = .ofInt ((headings run).toInt + (headings run).turning aim step) ∧
        ((headings (run + 1)).distance (headings run) : Int) ≤ step.toInt) ∧
      ∃ count, Angle.Arrives headings aim step count := by
  intro headings
  have moved (run : Nat) : headings (run + 1) = (headings run).approach aim step := by
    have next : headings (run + 1) = _ := heading_succ aims run
    rw [next, still, Angle.rotate_zero]
  constructor
  · intro run
    have turned := (headings run).natAbs_turning_le aim (Int.le_of_lt moves)
    have near := (headings run).distance_turned_le ((headings run).turning aim step)
    rw [moved, Angle.approach_eq]
    refine ⟨Angle.toNat_toWord_lt _, rfl, ?_⟩
    omega
  · exact Angle.exists_arrives moves moved

/-- A heading one step past zero goes all around and comes out above its aim, so that it takes a run more than
its detour has strides. -/
theorem heading_arrives_around :
    let actor : Actor :=
      { id := ⟨.ofNat 1⟩
        name := "chaser"
        orientation := { yaw := .ofInt 4000, roll := .ofInt 7 }
        spin := { roll := -300 }
        flags := .attractionActive
        altitude := ⟨0, 100⟩
        turret := some ⟨.ofNat 2⟩ }
    let frames : Nat → Frame := fun run =>
      { clock := ⟨UInt64.ofNat run⟩
        config := { aimStep := 3000 }
        turrets := ⟨[(⟨.ofNat 2⟩, ⟨.ofInt 0⟩)]⟩ }
    let headings := heading frames {} actor
    (headings 0).detour (.ofInt 0) ⌈/⌉ 3000 = 1 ∧
      [1, 2, 3].map (fun run => (headings run).toInt) = [2904, 0, 0] ∧
      (∀ run, (headings run).toWord.toNat < 4096 ∧
        headings (run + 1) = .ofInt ((headings run).toInt + (headings run).turning (.ofInt 0) 3000) ∧
        ((headings (run + 1)).distance (headings run) : Int) ≤ (3000 : Int32).toInt) ∧
      ∃ count, Angle.Arrives headings (.ofInt 0) 3000 count := by
  intro actor frames headings
  refine ⟨by decide, by decide, ?_⟩
  exact heading_arrives {} rfl (fun run => ⟨by decide, by rfl, rfl⟩) (by decide)

/-- With a spin of one step at most, a heading on its aim is held there by every run, unless the spin takes it
from one end of the representatives to the other: then the first run already loses it, except where spin and
step together cover the circle or the step undoes the spin. -/
theorem heading_held_iff (counters : MotionCounters) (aims : ∀ run, actor.AimsAt aim step (frames run))
    (aimed : actor.orientation.yaw = aim) (small : (actor.spin.yaw.toInt.natAbs : Int) ≤ step.toInt) :
    let headings := heading frames counters actor
    ((∀ count, headings count = aim) ↔ aim.Holds actor.spin.yaw.toInt step.toInt) ∧
      (headings 1 = aim ↔ aim.Holds actor.spin.yaw.toInt step.toInt) := by
  intro headings
  have again : (aim.rotate actor.spin.yaw).approach aim step = aim ↔ _ := aim.approach_rotate_eq_iff small
  have next (count : Nat) (held : headings count = aim) :
      headings (count + 1) = (aim.rotate actor.spin.yaw).approach aim step := by
    have turned : headings (count + 1) = ((headings count).rotate actor.spin.yaw).approach aim step :=
      heading_succ aims count
    rw [turned, held]
  have first : headings 1 = aim ↔ aim.Holds actor.spin.yaw.toInt step.toInt := by
    rw [next 0 aimed, again]
  refine ⟨?_, first⟩
  constructor
  · intro held
    exact first.mp (held 1)
  · intro holds count
    induction count with
    | zero => exact aimed
    | succ count ih => rw [next count ih, again.mpr holds]

/-- A spin of the whole step against the direction of the pursuit is undone by it, also across zero. -/
theorem heading_held_across_zero :
    let actor : Actor :=
      { id := ⟨.ofNat 1⟩
        name := "chaser"
        orientation := { yaw := .ofInt 5 }
        spin := { yaw := -32 }
        flags := .attractionActive
        turret := some ⟨.ofNat 2⟩ }
    let frames : Nat → Frame := fun run =>
      { clock := ⟨UInt64.ofNat run⟩, turrets := ⟨[(⟨.ofNat 2⟩, ⟨.ofInt 5⟩)]⟩ }
    let headings := heading frames {} actor
    (((-32 : Int16).toInt.natAbs : Int) ≤ (32 : Int32).toInt ∧ Angle.Holds (.ofInt 5) (-32) 32) ∧
      ((∀ count, headings count = .ofInt 5) ↔ Angle.Holds (.ofInt 5) (-32 : Int16).toInt (32 : Int32).toInt) ∧
      (headings 1 = .ofInt 5 ↔ Angle.Holds (.ofInt 5) (-32 : Int16).toInt (32 : Int32).toInt) := by
  intro actor frames headings
  refine ⟨by decide, ?_⟩
  exact heading_held_iff {} (fun run => ⟨by decide, by rfl, rfl⟩) rfl (by decide)

/-- A heading on the last representative is lost by a spin of one: it comes out at the first one, from where the
aim is farther than a step. -/
theorem heading_lost_at_seam :
    ¬ ∀ (frames : Nat → Frame) (counters : MotionCounters) (actor : Actor) (aim : Angle) (step : Int32),
      (∀ run, actor.AimsAt aim step (frames run)) → actor.orientation.yaw = aim →
        (actor.spin.yaw.toInt.natAbs : Int) ≤ step.toInt →
          ∀ count, heading frames counters actor count = aim := by
  intro held
  let actor : Actor :=
    { id := ⟨.ofNat 1⟩
      name := "chaser"
      orientation := { yaw := .ofInt 4095 }
      spin := { yaw := 1 }
      flags := .attractionActive
      turret := some ⟨.ofNat 2⟩ }
  let frames : Nat → Frame := fun _ => { turrets := ⟨[(⟨.ofNat 2⟩, ⟨.ofInt 4095⟩)]⟩ }
  have kept : heading frames {} actor 1 = .ofInt 4095 :=
    held frames {} actor (.ofInt 4095) 32 (fun _ => ⟨by decide, by rfl, rfl⟩) rfl (by decide) 1
  have lost : heading frames {} actor 1 = .ofInt 32 := by decide
  rw [lost] at kept
  exact absurd kept (by decide)

end MotionStage
end Rotorcraft
