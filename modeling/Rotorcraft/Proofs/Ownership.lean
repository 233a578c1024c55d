import Mathlib.Data.List.Forall2
import Rotorcraft.Proofs.Finish
import Rotorcraft.Proofs.TimerHistory
import Rotorcraft.Proofs.Turns
import Rotorcraft.Proofs.WellFormed

/-! # What a tick owns

Every part of an actor has an owner among the stages and modes, and only its owner writes it. What follows
for a run of ticks is the frame relation `Actor.Confined`: most of a record never changes, and each of the
rest changes only while its owner is at work. One tick is told more closely by `Actor.ConfinedOnce`. This
holds of every record, however it was made.
-/

namespace Rotorcraft

def Actor.ticksLeft (actor : Actor) (timer : TimerName) : Int :=
  (actor.timers.remaining timer).toInt

/-- What ticks of the standard pipeline may do to an actor. -/
structure Actor.Confined (before after : Actor) : Prop where
  persists : before.Persists after
  /-- The sub-mode, the flag of attraction and the upper eight bits are nobody's. -/
  bits : after.flags.bits &&& 0xFF0D = before.flags.bits &&& 0xFF0D
  target : after.altitude.target = before.altitude.target
  capacity : after.path.length = before.path.length
  /-- A timer never gains ticks, but one below zero is brought to zero. -/
  timers : ∀ timer, after.ticksLeft timer = before.ticksLeft timer ∨
    0 ≤ after.ticksLeft timer ∧ after.ticksLeft timer ≤ max 0 (before.ticksLeft timer)
  /-- The altitude belongs to attraction. -/
  altitude : before.hasFlag .attractionActive = false →
    after.altitude.current = before.altitude.current
  /-- Anchors are the business of mode 0. -/
  anchor : before.status.selector ≠ 0 → after.derived.anchor = before.derived.anchor
  /-- Velocities are the business of mode 1. -/
  velocity : before.status.selector ≠ 1 → after.derived.velocity = before.derived.velocity
  /-- Banking is the business of the modes 2 and 3. -/
  banking : before.status.selector ≠ 2 → before.status.selector ≠ 3 →
    after.derived.turnRate = before.derived.turnRate ∧ after.derived.bank = before.derived.bank
  /-- Ticks do not set these flags. -/
  unset : ∀ mask ∈ [ControlFlags.secondaryPath, .reloadPath],
    before.hasFlag mask = false → after.hasFlag mask = false
  /-- Only mode 0 returns an actor to its primary path. -/
  secondaryPath : before.status.selector ≠ 0 →
    after.hasFlag .secondaryPath = before.hasFlag .secondaryPath
  /-- Ticks do not clear these flags. -/
  held : ∀ mask ∈ [ControlFlags.transitioned, .eventLatch],
    before.hasFlag mask = true → after.hasFlag mask = true
  /-- Only the modes from 4 on are unknown. -/
  transitioned : before.status.selector < 4 →
    after.hasFlag .transitioned = before.hasFlag .transitioned
  /-- The path belongs to a request to load it. -/
  path : before.hasFlag .reloadPath = false →
    after.path = before.path ∧ after.pathLength = before.pathLength

/-- What one tick of the standard pipeline may do to an actor. -/
structure Actor.ConfinedOnce (before after : Actor) : Prop where
  confined : before.Confined after
  counted : ∀ timer, after.ticksLeft timer = max 0 (before.ticksLeft timer - 1)
  /-- The pending code belongs to the timers that fire. -/
  pending : before.timers.firing = [] → after.pendingEvent = before.pendingEvent

namespace Actor.Confined

theorem refl (actor : Actor) : actor.Confined actor where
  persists := .refl actor
  bits := rfl
  target := rfl
  capacity := rfl
  timers _ := .inl rfl
  altitude _ := rfl
  anchor _ := rfl
  velocity _ := rfl
  banking _ _ := ⟨rfl, rfl⟩
  unset _ _ clear := clear
  secondaryPath _ := rfl
  held _ _ set := set
  transitioned _ := rfl
  path _ := ⟨rfl, rfl⟩

/-- An actor keeps its mode and its flag of attraction, so every owner stays the same. -/
theorem trans {first second third : Actor} (left : first.Confined second)
    (right : second.Confined third) : first.Confined third where
  persists := left.persists.trans right.persists
  bits := right.bits.trans left.bits
  target := right.target.trans left.target
  capacity := right.capacity.trans left.capacity
  timers timer := by
    have earlier := left.timers timer
    have later := right.timers timer
    omega
  altitude inactive := by
    have active : second.hasFlag .attractionActive = first.hasFlag .attractionActive :=
      left.persists.flags.intersects_eq (by decide)
    exact (right.altitude (active.trans inactive)).trans (left.altitude inactive)
  anchor other := by
    rw [right.anchor (left.persists.status ▸ other), left.anchor other]
  velocity other := by
    rw [right.velocity (left.persists.status ▸ other), left.velocity other]
  banking notLeft notRight := by
    obtain ⟨rate, bank⟩ := left.banking notLeft notRight
    obtain ⟨nextRate, nextBank⟩ :=
      right.banking (left.persists.status ▸ notLeft) (left.persists.status ▸ notRight)
    exact ⟨nextRate.trans rate, nextBank.trans bank⟩
  unset mask chosen clear := right.unset mask chosen (left.unset mask chosen clear)
  secondaryPath other := by
    rw [right.secondaryPath (left.persists.status ▸ other), left.secondaryPath other]
  held mask chosen set := right.held mask chosen (left.held mask chosen set)
  transitioned known := by
    rw [right.transitioned (left.persists.status ▸ known), left.transitioned known]
  path idle := by
    obtain ⟨path, length⟩ := left.path idle
    have stillIdle := left.unset .reloadPath (by decide) idle
    obtain ⟨nextPath, nextLength⟩ := right.path stillIdle
    exact ⟨nextPath.trans path, nextLength.trans length⟩

end Actor.Confined

theorem Mode.selector_ofSelector (selector : UInt8) : (Mode.ofSelector selector).selector = selector := by
  simp only [ofSelector]
  split_ifs with init pursue left right
  · exact init.symm
  · exact pursue.symm
  · exact left.symm
  · exact right.symm
  · rfl

theorem Actor.selector_eq {actor : Actor} {mode : Mode} (selected : actor.mode = mode) :
    actor.status.selector = mode.selector := by
  rw [← selected]
  exact (Mode.selector_ofSelector _).symm

namespace Actor.Confined

variable {actor : Actor} {mask : ControlFlags}

/-- The mask of what ticks leave alone in the control word. -/
theorem outside_ticking (owned : mask.bits &&& 0xFF0D = 0) :
    mask.bits &&& ~~~ControlFlags.ticking.bits = 0 := by
  rwa [show ~~~ControlFlags.ticking.bits = 0xFF0D by decide]

/-- A flag that ticks set is not one of a path, and it marks unknown modes only. -/
theorem setFlag (owned : mask.bits &&& 0xFF0D = 0) (secondary : mask.bits &&& 2 = 0)
    (reload : mask.bits &&& 128 = 0) (transitioned : actor.status.selector < 4 → mask.bits &&& 64 = 0) :
    actor.Confined (actor.setFlag mask) := by
  have same : ControlFlags.SameOutside mask (actor.setFlag mask).flags actor.flags := .insert _ _
  have secondaryPath : (actor.setFlag mask).hasFlag .secondaryPath = actor.hasFlag .secondaryPath :=
    same.intersects_eq secondary
  have reloadPath : (actor.setFlag mask).hasFlag .reloadPath = actor.hasFlag .reloadPath :=
    same.intersects_eq reload
  exact
    { refl actor with
      persists := { Persists.refl actor with flags := same.widen (outside_ticking owned) }
      bits := show _ &&& (⟨0xFF0D⟩ : ControlFlags).bits = _ from same.and_eq owned
      unset := fun other chosen clear => by
        simp only [List.mem_cons, List.not_mem_nil, or_false] at chosen
        rcases chosen with rfl | rfl
        · rwa [secondaryPath]
        · rwa [reloadPath]
      secondaryPath := fun _ => secondaryPath
      held := fun other _ set => by
        change (actor.flags.insert mask).intersects other = true
        rw [ControlFlags.intersects_insert, Bool.or_eq_true]
        exact .inl set
      transitioned := fun known => same.intersects_eq (transitioned known)
      path := fun _ => ⟨rfl, rfl⟩ }

/-- A flag that ticks clear neither marks an unknown mode nor latches a code, and only mode 0 clears the
one of the secondary path. -/
theorem clearFlag (owned : mask.bits &&& 0xFF0D = 0) (transitioned : mask.bits &&& 64 = 0)
    (latch : mask.bits &&& 16 = 0) (secondary : actor.status.selector ≠ 0 → mask.bits &&& 2 = 0) :
    actor.Confined (actor.clearFlag mask) := by
  have same : ControlFlags.SameOutside mask (actor.clearFlag mask).flags actor.flags := .remove _ _
  have marked : (actor.clearFlag mask).hasFlag .transitioned = actor.hasFlag .transitioned :=
    same.intersects_eq transitioned
  have latched : (actor.clearFlag mask).hasFlag .eventLatch = actor.hasFlag .eventLatch :=
    same.intersects_eq latch
  exact
    { refl actor with
      persists := { Persists.refl actor with flags := same.widen (outside_ticking owned) }
      bits := show _ &&& (⟨0xFF0D⟩ : ControlFlags).bits = _ from same.and_eq owned
      unset := fun other _ clear => ControlFlags.intersects_remove_of_clear clear
      secondaryPath := fun other => same.intersects_eq (secondary other)
      held := fun other chosen set => by
        simp only [List.mem_cons, List.not_mem_nil, or_false] at chosen
        rcases chosen with rfl | rfl
        · rwa [marked]
        · rwa [latched]
      transitioned := fun _ => marked
      path := fun _ => ⟨rfl, rfl⟩ }

/-- Derived values are written by the modes that own them. -/
theorem derive {derived : Derived}
    (anchor : actor.status.selector ≠ 0 → derived.anchor = actor.derived.anchor)
    (velocity : actor.status.selector ≠ 1 → derived.velocity = actor.derived.velocity)
    (banking : actor.status.selector ≠ 2 → actor.status.selector ≠ 3 →
      derived.turnRate = actor.derived.turnRate ∧ derived.bank = actor.derived.bank) :
    actor.Confined { actor with derived := derived } :=
  { refl actor with
    persists := { Persists.refl actor with }
    anchor := anchor
    velocity := velocity
    banking := banking }

/-- A requested path is written within its buffer. -/
theorem store (requested : actor.hasFlag .reloadPath = true) {path : List UInt8}
    (capacity : path.length = actor.path.length) (pathLength : UInt64) :
    actor.Confined { actor with path := path, pathLength := pathLength } :=
  { refl actor with
    persists := { Persists.refl actor with }
    capacity := capacity
    path := fun idle => by
      rw [requested] at idle
      cases idle }

end Actor.Confined

section
variable (frame : Frame) (actor : Actor)

theorem TimerStage.ticksLeft_advance (timer : TimerName) :
    (advance actor).ticksLeft timer = max 0 (actor.ticksLeft timer - 1) := by
  simp only [Actor.ticksLeft, advance_eq, TimerBank.remaining, TimerBank.slot_advance,
    Countdown.toInt_tick]

theorem TimerStage.advance_confined : actor.Confined (advance actor) := by
  have counted : actor.Confined { actor with
      timers := actor.timers.advance
      pendingEvent := (firedCodes actor).getLast?.or actor.pendingEvent } :=
    { Actor.Confined.refl actor with
      persists :=
        { Actor.Persists.refl actor with
          codes := fun timer => by simp only [TimerBank.slot_advance] }
      timers := fun timer => by
        have left := ticksLeft_advance actor timer
        rw [advance_eq] at left
        simp only [Actor.ticksLeft] at left ⊢
        omega }
  have latched (next : Actor) : next.Confined (next.setFlag .eventLatch) :=
    .setFlag (by decide) (by decide) (by decide) fun _ => by decide
  rw [advance_eq]
  split
  · exact counted
  · exact counted.trans (latched _)

theorem MotionStage.run_confined (counters : MotionCounters) :
    actor.Confined (run frame counters actor).2.actor := by
  have altitude : (run frame counters actor).2.actor.altitude =
      if actor.hasFlag .attractionActive then actor.altitude.step frame.config.attractionStep
      else actor.altitude := by
    rw [run_actor]
    split
    · rw [attracted]
      split <;> rfl
    · rfl
  obtain ⟨orientation, reached, equation⟩ := exists_run_actor frame counters actor
  rw [equation] at altitude ⊢
  exact
    { Actor.Confined.refl actor with
      persists := { Actor.Persists.refl actor with }
      target := by
        rw [show reached = _ from altitude]
        split <;> rfl
      altitude := fun inactive => by
        rw [show reached = _ from altitude, inactive]
        rfl }

/-- A branch writes what its mode owns. -/
theorem DispatchStage.branch_confined {actor next : Actor} (success : branch frame actor = .ok next) :
    actor.Confined next := by
  simp only [branch] at success
  split at success
  · next selected =>
    have selector : actor.status.selector = 0 := Actor.selector_eq selected
    obtain rfl := Except.ok.inj success
    have primary : actor.Confined (actor.clearFlag .secondaryPath) :=
      .clearFlag (by decide) (by decide) (by decide) fun other => absurd selector other
    exact primary.trans (.derive (fun other => absurd selector other) (fun _ => rfl) fun _ _ => ⟨rfl, rfl⟩)
  · next selected =>
    have selector : actor.status.selector = 1 := Actor.selector_eq selected
    obtain ⟨velocity, rfl⟩ := exists_pursue frame success
    exact .derive (fun _ => rfl) (fun other => absurd selector other) fun _ _ => ⟨rfl, rfl⟩
  · next selected =>
    have selector : actor.status.selector = 2 := Actor.selector_eq selected
    obtain rfl := Except.ok.inj success
    exact .derive (fun _ => rfl) (fun _ => rfl) fun other _ => absurd selector other
  · next selected =>
    have selector : actor.status.selector = 3 := Actor.selector_eq selected
    obtain rfl := Except.ok.inj success
    exact .derive (fun _ => rfl) (fun _ => rfl) fun _ other => absurd selector other
  · next selected =>
    obtain rfl := Except.ok.inj success
    exact .setFlag (by decide) (by decide) (by decide) fun known =>
      absurd known (UInt8.not_lt.mpr (Mode.isFallback_iff.mp ⟨_, selected⟩))

theorem DispatchStage.run_confined (counters : DispatchCounters) :
    actor.Confined (run frame counters actor).2.actor := by
  cases outcome : branch frame actor with
  | ok next =>
    rw [(run_ok frame counters outcome).1]
    exact (branch_confined frame outcome).trans
      (.setFlag (by decide) (by decide) (by decide) fun _ => by decide)
  | error fault =>
    rw [(run_fault frame counters outcome).1]
    exact .clearFlag (by decide) (by decide) (by decide) fun _ => by decide

theorem TransferStage.run_confined (counters : TransferCounters) :
    actor.Confined (run frame counters actor).2.actor := by
  by_cases requested : actor.hasFlag .reloadPath = true
  · have consumed (next : Actor) : next.Confined (next.clearFlag .reloadPath) :=
      .clearFlag (by decide) (by decide) (by decide) fun _ => by decide
    obtain ⟨kept, _⟩ | cleared | ⟨bytes, copied, path, success, stored⟩ := run_actor frame counters actor
    · rw [kept]
      exact .refl actor
    · rw [cleared]
      exact consumed actor
    · rw [stored]
      have capacity := (CountedBuffer.copy_fits success).1
      exact (Actor.Confined.store requested capacity (UInt64.ofNat copied)).trans (consumed _)
  · rw [run_of_idle frame counters (Bool.eq_false_iff.mpr requested)]
    exact .refl actor

end

namespace Pipeline

variable {frame : Frame} {stages : List Stage} (standard : IsStandard stages) (actor : Actor)
include standard

theorem run_confined : actor.Confined (run frame stages actor).2.actor :=
  run_standard_induction standard
    (fun next kept => kept.trans (TimerStage.advance_confined next))
    (fun counters next kept => kept.trans (MotionStage.run_confined frame next counters))
    (fun counters next kept => kept.trans (DispatchStage.run_confined frame next counters))
    (fun counters next kept => kept.trans (TransferStage.run_confined frame next counters))
    (.refl actor)

theorem run_confinedOnce : actor.ConfinedOnce (run frame stages actor).2.actor := by
  have same : (TimerStage.advance actor).SameTimers (run frame stages actor).2.actor :=
    run_sameTimers standard actor
  refine ⟨run_confined standard actor, fun timer => ?_, fun quiet => ?_⟩
  · rw [Actor.ticksLeft, same.timers]
    exact TimerStage.ticksLeft_advance actor timer
  · rw [same.pendingEvent, TimerStage.advance_eq, TimerStage.firedCodes, quiet]
    rfl

end Pipeline

/-- What a tick may do to an engine. -/
structure Moment.Confines (moment : Moment) : Prop where
  actors : List.Forall₂ Actor.ConfinedOnce moment.engine.actors moment.ticked.engine.actors
  config : moment.ticked.engine.config = moment.engine.config
  reference : moment.ticked.engine.reference = moment.engine.reference
  turrets : moment.ticked.engine.turrets = moment.engine.turrets

theorem Moment.confines {moment : Moment} (standard : moment.engine.IsStandard) : moment.Confines where
  actors := by
    rw [actors_ticked, ← map_before_turns, List.forall₂_map_left_iff, List.forall₂_map_right_iff,
      List.forall₂_same]
    intro turn member
    rw [after_eq member]
    exact Pipeline.run_confinedOnce standard turn.before
  config := rfl
  reference := rfl
  turrets := rfl

private theorem forall₂_trans {α : Type} {R : α → α → Prop}
    (trans : ∀ {first second third}, R first second → R second third → R first third)
    {first second third : List α} (left : List.Forall₂ R first second)
    (right : List.Forall₂ R second third) : List.Forall₂ R first third := by
  induction left generalizing third with
  | nil => exact right
  | cons head _ ih =>
    cases right with
    | cons nextHead nextTail => exact .cons (trans head nextHead) (ih nextTail)

namespace Engine

/-- Whatever the records of a standard engine hold, every tick of every run writes what its stages and
modes own and nothing else, and so does the run as a whole. -/
theorem ticks_confined {engine : Engine} (standard : engine.IsStandard) (answers : List HostAnswers) :
    (∀ moment ∈ engine.momentsWith answers, moment.Confines) ∧
      List.Forall₂ Actor.Confined engine.actors (engine.runWith answers).engine.actors := by
  have all := momentsWith_induction
    (P := fun past later => later.IsStandard ∧ (∀ moment ∈ past, moment.Confines) ∧
      List.Forall₂ Actor.Confined engine.actors later.actors)
    [] engine ⟨standard, by simp, List.forall₂_same.mpr fun actor _ => .refl actor⟩
    (fun earlier moment kept => ?_) answers
  · exact all.2
  · obtain ⟨kinds, confined, whole⟩ := kept
    have now := Moment.confines kinds
    refine ⟨kinds.tickWith _, ?_, ?_⟩
    · exact List.forall_mem_append.mpr ⟨confined, List.forall_mem_singleton.mpr now⟩
    · exact forall₂_trans .trans whole (now.actors.imp fun _ _ once => once.confined)

/-- A record that no parameters make: a timer below zero, a short path with a longer length, unknown bits,
and a pursuit that is refused on every tick. -/
theorem ticks_confined_of_odd_record :
    let odd : Actor :=
      { id := ⟨.ofNat 1⟩, name := "", flags := ⟨0xC687⟩, status := ⟨0xF9FF⟩, path := [1, 2, 3],
        pathLength := 9, timers := { fire := ⟨⟨-3⟩, ⟨7⟩⟩, sweep := ⟨⟨2⟩, ⟨8⟩⟩ } }
    let engine : Engine := { actors := [odd], config := { pursuitDivisor := 0 }, stages := Stage.standard }
    let final := (engine.runWith [fun _ => {}, fun _ => {}]).engine
    engine.IsStandard ∧ final.actors.map (·.timers.fire.timer.remaining) = [0] ∧
      final.actors.map (·.pendingEvent) = [some ⟨8⟩] ∧ final.actors.map (·.flags.bits) = [0xC697] ∧
      List.Forall₂ Actor.Confined engine.actors final.actors := by
  intro odd engine final
  have standard : engine.IsStandard := rfl
  exact ⟨standard, by decide, by decide, by decide, (ticks_confined standard _).2⟩

end Engine
end Rotorcraft
