import Rotorcraft.Proofs.Chase
import Rotorcraft.Proofs.Countdown
import Rotorcraft.Proofs.Finish
import Rotorcraft.Proofs.TimerHistory

/-! # Rest

An actor without spin comes to rest: its timers run out, what attraction moves reaches its target or has
no stride, and what the end of a tick adds to this, it adds once. When this is over is known in advance,
whatever the mode of the actor, and also where its division is refused on every tick.
-/

namespace Rotorcraft

namespace TimerBank

variable (bank : TimerBank)

theorem toInt_remaining_advance (timer : TimerName) :
    (bank.advance.remaining timer).toInt = max 0 ((bank.remaining timer).toInt - 1) := by
  rw [remaining, slot_advance]
  exact Countdown.toInt_tick _

theorem toInt_remaining_iterate (timer : TimerName) (count : Nat) :
    ((advance^[count + 1] bank).remaining timer).toInt =
      max 0 ((bank.remaining timer).toInt - (count + 1)) := by
  induction count with
  | zero => exact bank.toInt_remaining_advance timer
  | succ count ih =>
    rw [Function.iterate_succ_apply', toInt_remaining_advance, ih]
    push_cast
    omega

def longest : Nat :=
  (TimerName.all.map fun timer => (bank.remaining timer).toInt.toNat).foldr max 0

theorem longest_le_iff {count : Nat} :
    bank.longest ≤ count ↔ ∀ timer, (bank.remaining timer).toInt ≤ count := by
  simp only [longest, TimerName.all, List.map_cons, List.map_nil, List.foldr_cons, List.foldr_nil,
    Nat.max_le, Int.toNat_le, Nat.zero_le, and_true]
  constructor
  · rintro ⟨fire, sweep, hover, alert⟩ timer
    cases timer with
    | fire => exact fire
    | sweep => exact sweep
    | hover => exact hover
    | alert => exact alert
  · intro all
    exact ⟨all _, all _, all _, all _⟩

variable {bank}

theorem longest_of_allIdle (idle : bank.allIdle = true) : bank.longest = 0 := by
  refine Nat.le_zero.mp (bank.longest_le_iff.mpr fun timer => ?_)
  have slot := List.all_eq_true.mp idle (bank.slot timer) (List.mem_map_of_mem timer.mem_all)
  have spent := Int16.le_iff_toInt_le.mp (of_decide_eq_true slot)
  rwa [Int16.toInt_zero] at spent

theorem ext_slot {first second : TimerBank} (same : ∀ timer, first.slot timer = second.slot timer) :
    first = second := by
  cases first
  cases second
  exact (TimerBank.mk.injEq ..).mpr ⟨same .fire, same .sweep, same .hover, same .alert⟩

section
variable (spent : ∀ timer, bank.remaining timer = 0)
include spent

theorem timer_of_spent (timer : TimerName) : (bank.slot timer).timer = ⟨0⟩ :=
  congrArg Countdown.mk (spent timer)

/-- A bank that has run out stays as it is. -/
theorem advance_of_spent : bank.advance = bank := by
  refine ext_slot fun timer => ?_
  rw [slot_advance, timer_of_spent spent timer]
  exact congrArg (TimerSlot.mk · _) (timer_of_spent spent timer).symm

/-- Nothing fires from a bank that has run out. -/
theorem firing_of_spent : bank.firing = [] := by
  refine List.filterMap_eq_nil_iff.mpr fun timer _ => ?_
  rw [timer_of_spent spent timer]
  rfl

end
end TimerBank

/-- An actor whose timers have run out does not change in the timer stage. -/
theorem TimerStage.advance_of_spent {actor : Actor} (spent : ∀ timer, actor.timers.remaining timer = 0) :
    advance actor = actor := by
  have silent : firedCodes actor = [] := by
    rw [firedCodes, TimerBank.firing_of_spent spent]
    rfl
  rw [advance_eq, silent, TimerBank.advance_of_spent spent]
  rfl

theorem Angle.rotate_zero (angle : Angle) : angle.rotate 0 = angle := by
  apply units_injective
  have bound := angle.units.isLt
  simp only [rotate, units_ofInt, toInt, Int16.toInt_zero]
  omega

namespace MotionStage

theorem turn_of_still {actor : Actor} (still : actor.spin = {}) : turn actor = actor := by
  have kept : actor.orientation.accumulate actor.spin = actor.orientation := by
    rw [still, Orientation.accumulate, Angle.rotate_zero, Angle.rotate_zero]
  rw [turn, kept]

theorem attracted_altitude (frame : Frame) (actor : Actor) :
    (attracted frame actor).altitude = actor.altitude.step frame.config.attractionStep := by
  rw [attracted]
  split <;> rfl

theorem attracted_yaw {frame : Frame} {actor : Actor} {turret : Turret}
    (aimed : frame.turret? actor = some turret) : (attracted frame actor).orientation.yaw =
      actor.orientation.yaw.approach turret.aim frame.config.aimStep := by
  rw [attracted, aimed]
  rfl

/-- An actor on which attraction has done its work does not change by it. -/
theorem attracted_of_settled {frame : Frame} {actor : Actor}
    (altitude : actor.altitude.step frame.config.attractionStep = actor.altitude)
    (yaw : ∀ turret, frame.turret? actor = some turret →
      actor.orientation.yaw.approach turret.aim frame.config.aimStep = actor.orientation.yaw) :
    attracted frame actor = actor := by
  rw [attracted]
  split
  · next turret aimed => simp only [aim, climb, altitude, yaw turret aimed]
  · simp only [climb, altitude]

end MotionStage

namespace Actor

variable {frame : Frame} {actor : Actor}

/-- Without spin, an actor moves by attraction only. -/
theorem moved_of_still (still : actor.spin = {}) : actor.moved frame =
    if actor.hasFlag .attractionActive then
      MotionStage.attracted frame (TimerStage.advance actor)
    else TimerStage.advance actor := by
  have kept := TimerStage.advance_persists actor
  have flag : (TimerStage.advance actor).hasFlag .attractionActive = actor.hasFlag .attractionActive :=
    kept.flags.intersects_eq (by decide)
  rw [moved, TimerStage.run_actor, MotionStage.run_actor, flag,
    MotionStage.turn_of_still (kept.spin.trans still)]

/-- An actor in which nothing is left to happen. -/
structure AtRest (frame : Frame) (actor : Actor) : Prop where
  still : actor.spin = {}
  spent : ∀ timer, actor.timers.remaining timer = 0
  altitude : actor.hasFlag .attractionActive = true →
    actor.altitude.step frame.config.attractionStep = actor.altitude
  yaw : actor.hasFlag .attractionActive = true → ∀ turret, frame.turret? actor = some turret →
    actor.orientation.yaw.approach turret.aim frame.config.aimStep = actor.orientation.yaw

theorem AtRest.moved_eq (rest : AtRest frame actor) : actor.moved frame = actor := by
  rw [moved_of_still rest.still, TimerStage.advance_of_spent rest.spent]
  split
  · next active => exact MotionStage.attracted_of_settled (rest.altitude active) (rest.yaw active)
  · rfl

/-- An actor that has arrived where it was on the way to. -/
structure Arrived (frame : Frame) (actor : Actor) : Prop where
  spent : ∀ timer, actor.timers.remaining timer = 0
  altitude : actor.hasFlag .attractionActive = true → 0 < frame.config.attractionStep →
    actor.altitude.isSettled = true
  yaw : actor.hasFlag .attractionActive = true → 0 < frame.config.aimStep →
    ∀ turret, frame.turret? actor = some turret → actor.orientation.yaw = turret.aim

/-- An actor that could still move rests only where it has arrived. -/
theorem AtRest.arrived (rest : AtRest frame actor) : actor.Arrived frame where
  spent := rest.spent
  altitude active climbs := by
    rw [Int32.lt_iff_toInt_lt, Int32.toInt_zero] at climbs
    exact Pursuit.isSettled_of_step_eq climbs (rest.altitude active)
  yaw active aims turret aimed := by
    rw [Int32.lt_iff_toInt_lt, Int32.toInt_zero] at aims
    exact Angle.eq_of_approach_eq aims (rest.yaw active turret aimed)

/-- What has become of an actor after some ticks, as far as it moves. -/
structure Course (frame : Frame) (start : Actor) (count : Nat) (actor : Actor) : Prop where
  persists : start.Persists actor
  timers : actor.timers = TimerBank.advance^[count] start.timers
  altitude : start.hasFlag .attractionActive = true →
    actor.altitude = (·.step frame.config.attractionStep)^[count] start.altitude
  yaw : start.hasFlag .attractionActive = true → ∀ turret, frame.turret? start = some turret →
    actor.orientation.yaw = (·.approach turret.aim frame.config.aimStep)^[count] start.orientation.yaw

/-- The end of a tick does not touch what moves. -/
theorem exists_finished (frame : Frame) (actor : Actor) : ∃ flags derived path pathLength,
    actor.finished frame =
      { actor with flags := flags, derived := derived, path := path, pathLength := pathLength } := by
  obtain ⟨_, refused, _⟩ | ⟨next, _, success⟩ := DispatchStage.branch_cases frame actor
  · exact ⟨_, _, _, _, finished_refused refused⟩
  · obtain ⟨flags, derived, rfl, _⟩ := DispatchStage.exists_branch frame success
    obtain ⟨last, path, pathLength, equation, _⟩ :=
      TransferStage.exists_run_actor frame {} (setFlag { actor with flags, derived } .divisionSafe)
    rw [finished, success]
    exact ⟨_, _, _, _, equation⟩

theorem altitude_ticked (still : actor.spin = {}) (active : actor.hasFlag .attractionActive = true) :
    (actor.ticked frame).altitude = actor.altitude.step frame.config.attractionStep := by
  obtain ⟨_, _, _, _, finish⟩ := (actor.moved frame).exists_finished frame
  rw [ticked, finish]
  simp only [moved_of_still still, active, if_true]
  rw [MotionStage.attracted_altitude, TimerStage.advance_eq]

theorem yaw_ticked (still : actor.spin = {}) (active : actor.hasFlag .attractionActive = true)
    {turret : Turret} (aimed : frame.turret? actor = some turret) :
    (actor.ticked frame).orientation.yaw =
      actor.orientation.yaw.approach turret.aim frame.config.aimStep := by
  have same : frame.turret? (TimerStage.advance actor) = some turret := by
    rw [← aimed, Frame.turret?, (TimerStage.advance_persists actor).turret]
    rfl
  obtain ⟨_, _, _, _, finish⟩ := (actor.moved frame).exists_finished frame
  rw [ticked, finish]
  simp only [moved_of_still still, active, if_true]
  rw [MotionStage.attracted_yaw same, TimerStage.advance_eq]

namespace Course

variable {start : Actor} {count : Nat}

theorem spin_eq (course : Course frame start count actor) : actor.spin = start.spin :=
  course.persists.spin

theorem active_eq (course : Course frame start count actor) :
    actor.hasFlag .attractionActive = start.hasFlag .attractionActive :=
  course.persists.flags.intersects_eq (by decide)

theorem turret_eq (course : Course frame start count actor) :
    frame.turret? actor = frame.turret? start := by
  rw [Frame.turret?, course.persists.turret]
  rfl

theorem succ (still : start.spin = {}) (course : Course frame start count actor) :
    Course frame start (count + 1) (actor.ticked frame) where
  persists := by
    rw [← Pipeline.run_standard_actor Pipeline.isStandard_standard]
    exact course.persists.trans (Pipeline.run_persists Pipeline.isStandard_standard actor)
  timers := by
    have same : (TimerStage.advance actor).SameTimers (actor.ticked frame) := by
      rw [← Pipeline.run_standard_actor Pipeline.isStandard_standard]
      exact Pipeline.run_sameTimers Pipeline.isStandard_standard actor
    have timers : (TimerStage.advance actor).timers = actor.timers.advance := by
      rw [TimerStage.advance_eq]
    rw [same.timers, timers, course.timers, Function.iterate_succ_apply']
  altitude active := by
    rw [altitude_ticked (course.spin_eq.trans still) (course.active_eq.trans active),
      course.altitude active, Function.iterate_succ_apply']
  yaw active turret aimed := by
    rw [yaw_ticked (course.spin_eq.trans still) (course.active_eq.trans active)
      (course.turret_eq.trans aimed), course.yaw active turret aimed, Function.iterate_succ_apply']

end Course

theorem course_iterate (frame : Frame) {start : Actor} (still : start.spin = {}) (count : Nat) :
    Course frame start count ((ticked frame)^[count] start) := by
  induction count with
  | zero => exact ⟨.refl start, rfl, fun _ => rfl, fun _ _ _ => rfl⟩
  | succ count ih =>
    rw [Function.iterate_succ_apply']
    exact ih.succ still

/-- The ticks that attraction takes to move an actor where it will stay. By a step of zero it is not moved
at all, and nothing divided by zero is zero. -/
def attractionTime (frame : Frame) (actor : Actor) : Nat :=
  if actor.hasFlag .attractionActive then
    max (65535 ⌈/⌉ frame.config.attractionStep.toInt.toNat)
      (if (frame.turret? actor).isSome then 4095 ⌈/⌉ frame.config.aimStep.toInt.toNat else 0)
  else 0

/-- After how many ticks, and one at least, an actor without spin does not change any more. -/
def settlingTime (frame : Frame) (actor : Actor) : Nat :=
  max 1 (max actor.timers.longest (actor.attractionTime frame))

theorem attractionTime_le {count : Nat} (active : actor.hasFlag .attractionActive = true)
    (late : actor.attractionTime frame ≤ count) :
    65535 ⌈/⌉ frame.config.attractionStep.toInt.toNat ≤ count ∧
      ∀ turret, frame.turret? actor = some turret →
        4095 ⌈/⌉ frame.config.aimStep.toInt.toNat ≤ count := by
  rw [attractionTime, if_pos active, Nat.max_le] at late
  refine ⟨late.1, fun turret aimed => ?_⟩
  simpa only [aimed, Option.isSome_some, if_true] using late.2

theorem Course.atRest {start : Actor} {count : Nat} (climbs : 0 ≤ frame.config.attractionStep.toInt)
    (aims : 0 ≤ frame.config.aimStep.toInt) (still : start.spin = {})
    (course : Course frame start count actor) (late : start.settlingTime frame ≤ count) :
    actor.AtRest frame := by
  obtain ⟨positive, timers, attraction⟩ :
      1 ≤ count ∧ start.timers.longest ≤ count ∧ start.attractionTime frame ≤ count := by
    simpa only [settlingTime, Nat.max_le] using late
  refine ⟨course.spin_eq.trans still, fun timer => ?_, fun active => ?_, fun active turret aimed => ?_⟩
  · -- a count below zero is brought to zero by the first tick, so that one is needed at least
    obtain ⟨before, rfl⟩ := Nat.exists_eq_add_of_le' positive
    have bound := start.timers.longest_le_iff.mp timers timer
    have left := start.timers.toInt_remaining_iterate timer before
    rw [course.timers, ← Int16.toInt_inj, left, Int16.toInt_zero]
    push_cast at bound
    omega
  · rw [course.active_eq] at active
    rw [course.altitude active]
    exact start.altitude.step_iterate climbs (attractionTime_le active attraction).1
  · rw [course.active_eq] at active
    rw [course.turret_eq] at aimed
    rw [course.yaw active turret aimed]
    exact start.orientation.yaw.approach_iterate turret.aim aims
      ((attractionTime_le active attraction).2 turret aimed)

/-- Once an actor does not move any more, it has been finished for the last time. -/
theorem AtRest.ticked_eq {start : Actor} {count : Nat} (positive : 1 ≤ count)
    (rest : ((ticked frame)^[count] start).AtRest frame) :
    ((ticked frame)^[count] start).ticked frame = (ticked frame)^[count] start := by
  -- the actor is what the tick before has finished
  obtain ⟨before, rfl⟩ := Nat.exists_eq_add_of_le' positive
  rw [ticked, rest.moved_eq, Function.iterate_succ_apply', ticked]
  exact finished_finished frame _

end Actor

theorem Config.steps_of_validate {config : Config} (valid : config.validate = .ok ()) :
    0 ≤ config.attractionStep.toInt ∧ 0 ≤ config.aimStep.toInt := by
  have accepted : config.problem? = none := by
    rw [validate] at valid
    split at valid
    · cases valid
    · next accepted => exact accepted
  rw [problem?] at accepted
  split at accepted
  · cases accepted
  · next climbs =>
    split at accepted
    · cases accepted
    · next aims =>
      rw [Int32.lt_iff_toInt_lt, Int32.toInt_zero] at climbs aims
      omega

/-- An actor with idle timers and without attraction needs a single tick. -/
theorem Actor.settlingTime_of_idle (frame : Frame) {actor : Actor} (idle : actor.timers.allIdle = true)
    (inactive : actor.hasFlag .attractionActive = false) : actor.settlingTime frame = 1 := by
  have attraction : actor.attractionTime frame = 0 := by
    rw [attractionTime, inactive]
    rfl
  rw [settlingTime, TimerBank.longest_of_allIdle idle, attraction]
  rfl

namespace Engine

/-- In an engine with accepted settings, an actor without spin has arrived after its settling time, and
then it does not change any more. If its timers are idle and attraction is not active, then this is one
tick. -/
theorem comes_to_rest {engine : Engine} (valid : engine.config.validate = .ok ())
    (standard : engine.IsStandard) {place : Nat} {actor : Actor}
    (live : engine.actors[place]? = some actor) (still : actor.spin = {}) :
    (∀ count, actor.settlingTime engine.ownFrame ≤ count → ∃ resting,
      actor.Persists resting ∧ resting.Arrived engine.ownFrame ∧
        (engine.run count).engine.actors[place]? = some resting ∧
        (engine.run (count + 1)).engine.actors[place]? = some resting) ∧
      (actor.timers.allIdle = true → actor.hasFlag .attractionActive = false →
        actor.settlingTime engine.ownFrame = 1) := by
  obtain ⟨climbs, aims⟩ := Config.steps_of_validate valid
  have reached (count : Nat) : (engine.run count).engine.actors[place]? =
      some ((Actor.ticked engine.ownFrame)^[count] actor) := by
    rw [actors_run standard, List.getElem?_map, live, Option.map_some, Actor.after_eq_iterate]
  refine ⟨fun count late => ?_, actor.settlingTime_of_idle engine.ownFrame⟩
  have course := Actor.course_iterate engine.ownFrame still count
  have rest := course.atRest climbs aims still late
  have positive : 1 ≤ count := Nat.le_trans (Nat.le_max_left ..) late
  refine ⟨_, course.persists, rest.arrived, reached count, ?_⟩
  rw [reached, Function.iterate_succ_apply', rest.ticked_eq positive]

/-- An altitude climbs through the whole range in three ticks, while the division of the actor is refused
and its path is never loaded. -/
theorem comes_to_rest_refused : ∃ start,
    Engine.new { pursuitDivisor := 0, attractionStep := 30000 } = .ok start ∧
    let engine := start.performAll
      [.spawn ⟨.ofNat 1⟩
        { name := "chaser"
          mode := 1
          flags := ControlFlags.attractionActive.insert .reloadPath
          altitude := ⟨Int16.minValue, Int16.maxValue⟩
          timers := { fire := some 2 } }]
    (engine.run 3).engine.actors ≠ (engine.run 2).engine.actors ∧
      ∃ actor, engine.actors[0]? = some actor ∧ ∃ resting, actor.Persists resting ∧
        resting.Arrived engine.ownFrame ∧ (engine.run 3).engine.actors[0]? = some resting ∧
        (engine.run 4).engine.actors[0]? = some resting :=
  ⟨_, rfl, by decide, _, rfl, (comes_to_rest (by rfl) (by rfl) (by rfl) (by rfl)).1 3 (by decide)⟩

end Engine
end Rotorcraft
