import Mathlib.Algebra.GroupWithZero.Nat
import Rotorcraft.Proofs.Copies
import Rotorcraft.Proofs.Proceedings
import Rotorcraft.Proofs.Rest
import Rotorcraft.Proofs.Turns

/-! # The tally of turns

The stages of the standard pipeline count what they do while actors take their turns. What each counter
counts can be told from a turn as it is seen from outside: the actor before and after it, and what was
logged and called meanwhile. `Tally` says so of all counters, and it holds on after every tick.
-/

namespace Rotorcraft

namespace EventKind

def isDivisionFault : EventKind → Bool
  | .divisionFault _ _ => true
  | _ => false

def isUnavailable : EventKind → Bool
  | .assetUnavailable _ _ => true
  | _ => false

def isPassage : EventKind → Bool
  | .spawned _ => true
  | .despawned _ => true
  | _ => false

end EventKind

namespace Turn

variable (turn : Turn)

/-- An altitude that is attracted settles in this turn. -/
def arrives : Bool :=
  turn.before.hasFlag .attractionActive && !turn.before.altitude.isSettled && turn.after.altitude.isSettled

/-- The status word selects a mode that the dispatcher does not know. -/
def fallsBack : Bool :=
  4 ≤ turn.before.status.selector && turn.before.status.selector ≤ 7

/-- An actor is attracted, but it has no turret or its handle is dead. -/
def skipsAim : Bool :=
  turn.before.hasFlag .attractionActive && (turn.frame.turret? turn.before).isNone

def stores : Bool :=
  !turn.loads.isEmpty && !turn.pass.events.any (·.kind.isFailedLoad)

end Turn

/-- What the stages of the standard pipeline have counted. -/
structure Counters where
  timers : TimerCounters := {}
  motion : MotionCounters := {}
  dispatch : DispatchCounters := {}
  transfer : TransferCounters := {}

namespace Counters

def stages (counters : Counters) : List Stage :=
  [.timers counters.timers, .motion counters.motion, .dispatch counters.dispatch,
    .transfer counters.transfer]

theorem isStandard_stages (counters : Counters) : Pipeline.IsStandard counters.stages := rfl

/-- A standard pipeline consists of its counters. -/
theorem exists_stages {stages : List Stage} (standard : Pipeline.IsStandard stages) :
    ∃ counters : Counters, stages = counters.stages := by
  obtain ⟨first, rest, rfl, timers, standard⟩ := List.map_eq_cons_iff.mp standard
  obtain ⟨second, rest, rfl, motion, standard⟩ := List.map_eq_cons_iff.mp standard
  obtain ⟨third, rest, rfl, dispatch, standard⟩ := List.map_eq_cons_iff.mp standard
  obtain ⟨fourth, rest, rfl, transfer, standard⟩ := List.map_eq_cons_iff.mp standard
  obtain rfl := List.map_eq_nil_iff.mp standard
  cases first <;> cases timers
  cases second <;> cases motion
  cases third <;> cases dispatch
  cases fourth <;> cases transfer
  exact ⟨⟨_, _, _, _⟩, rfl⟩

/-- The counters after an actor went through the stages. -/
def after (counters : Counters) (frame : Frame) (actor : Actor) : Counters where
  timers := (TimerStage.run frame counters.timers actor).1
  motion := (MotionStage.run frame counters.motion (TimerStage.advance actor)).1
  dispatch := (DispatchStage.run frame counters.dispatch (actor.moved frame)).1
  transfer :=
    if (DispatchStage.refusal? frame actor).isSome then counters.transfer
    else (TransferStage.run frame counters.transfer (actor.dispatched frame)).1

theorem run_stages (counters : Counters) (frame : Frame) (actor : Actor) :
    (Pipeline.run frame counters.stages actor).1 = (counters.after frame actor).stages := by
  have moved : (MotionStage.run frame counters.motion (TimerStage.advance actor)).2.actor =
      actor.moved frame := by
    rw [MotionStage.run_pass, Actor.moved, TimerStage.run_actor]
  have refused := DispatchStage.run_error frame (actor.moved frame) counters.dispatch
  rw [DispatchStage.refusal?_moved] at refused
  have dispatched : (DispatchStage.run frame counters.dispatch (actor.moved frame)).2.actor =
      actor.dispatched frame := rfl
  simp only [stages, Pipeline.run, Stage.run, TimerStage.run_error, TimerStage.run_actor,
    MotionStage.run_error, moved, refused, after]
  cases DispatchStage.refusal? frame actor with
  | some fault => rfl
  | none => simp only [Option.map_none, TransferStage.run_error, dispatched]; rfl

end Counters

theorem TimerStage.counted_run (frame : Frame) (counters : TimerCounters) (actor : Actor) :
    (run frame counters actor).1.fired + (run frame counters actor).1.rebroadcasts =
      counters.fired + counters.rebroadcasts + (codes frame actor).length := by
  rw [run, codes]
  cases firedCodes actor with
  | nil => exact (Nat.add_assoc ..).symm
  | cons code rest =>
    simp only [List.isEmpty_cons, Bool.false_eq_true, if_false, reduceCtorEq]
    omega

theorem MotionStage.skippedAims_run (frame : Frame) (counters : MotionCounters) (actor : Actor) :
    (run frame counters actor).1.skippedAims = counters.skippedAims +
      if actor.hasFlag .attractionActive && (frame.turret? actor).isNone then 1 else 0 := by
  have flag : (turn actor).hasFlag .attractionActive = actor.hasFlag .attractionActive := rfl
  have handle : frame.turret? (climb frame (turn actor)) = frame.turret? actor := rfl
  simp only [run, flag, handle]
  cases actor.hasFlag .attractionActive with
  | false => rfl
  | true => cases frame.turret? actor <;> rfl

/-- An actor is dispatched or refused, and the modes that the dispatcher does not know fall back. -/
theorem DispatchStage.counted_run (frame : Frame) (counters : DispatchCounters) (actor : Actor) :
    let after := (run frame counters actor).1
    after.dispatched + after.faults = counters.dispatched + counters.faults + 1 ∧
      after.faults = counters.faults + (if (refusal? frame actor).isSome then 1 else 0) ∧
      after.fallbacks = counters.fallbacks + if 4 ≤ actor.status.selector then 1 else 0 := by
  intro after
  obtain ⟨fault, refused, failed⟩ | ⟨next, accepted, success⟩ := branch_cases frame actor
  · have pursuing : actor.status.selector = 1 := ((refusal?_eq_some_iff frame actor).mp refused).1
    have counted : after = { counters with faults := counters.faults + 1 } := by
      simp only [after, run, dispatch, failed, count]
    rw [counted, refused, pursuing]
    exact ⟨rfl, rfl, rfl⟩
  · have counted : after = count counters (.ok actor.mode) := by
      simp only [after, run, dispatch, success]
    rw [counted, accepted]
    by_cases unknown : 4 ≤ actor.status.selector
    · obtain ⟨other, fallback⟩ := Mode.isFallback_iff.mpr unknown
      rw [show actor.mode = .fallback other from fallback]
      refine ⟨Nat.add_right_comm .., rfl, ?_⟩
      rw [if_pos unknown]
      rfl
    · have known : count counters (.ok actor.mode) =
          { counters with dispatched := counters.dispatched + 1 } := by
        cases mode : actor.mode with
        | fallback other => exact absurd (Mode.isFallback_iff.mp ⟨other, mode⟩) unknown
        | _ => rfl
      rw [known, if_neg unknown]
      exact ⟨Nat.add_right_comm .., rfl, rfl⟩

/-- The bytes that a transfer copies become the path, and the assets that it misses are logged. -/
theorem TransferStage.counted_run (frame : Frame) (counters : TransferCounters) (actor : Actor) :
    let after := run frame counters actor
    after.1.unavailable = counters.unavailable + after.2.events.countP (·.kind.isUnavailable) ∧
      after.1.bytesCopied = counters.bytesCopied +
        if !(after.2.calls.filterMap HostCall.loaded?).isEmpty &&
            !after.2.events.any (·.kind.isFailedLoad) then
          after.2.actor.pathLength.toNat
        else 0 := by
  intro after
  have goes := goes_run frame counters actor
  cases outcome : run frame counters actor
  simp only [after, outcome] at goes ⊢
  cases goes with
  | idle _ => exact ⟨rfl, rfl⟩
  | keyless _ _ => exact ⟨rfl, rfl⟩
  | unavailable _ _ _ => exact ⟨rfl, rfl⟩
  | refused _ _ _ _ => exact ⟨rfl, rfl⟩
  | @stored _ _ _ copied _ _ _ success =>
    exact ⟨rfl, congrArg (counters.bytesCopied + ·) (CountedBuffer.toNat_copied success).symm⟩

/-- The altitude belongs to attraction. -/
theorem Actor.altitude_ticked_eq (frame : Frame) (actor : Actor) : (actor.ticked frame).altitude =
    if actor.hasFlag .attractionActive then actor.altitude.step frame.config.attractionStep
    else actor.altitude := by
  have altitude : (MotionStage.turn (TimerStage.advance actor)).altitude = actor.altitude := by
    rw [TimerStage.advance_eq]
    rfl
  obtain ⟨_, _, _, _, finish⟩ := (actor.moved frame).exists_finished frame
  rw [ticked, finish]
  simp only [moved, TimerStage.run_actor, MotionStage.run_actor,
    TimerStage.active_advance]
  split
  · rw [MotionStage.attracted_altitude, altitude]
  · exact altitude

/-- A transfer tells of trouble with assets only. -/
theorem TransferStage.quiet_run (frame : Frame) (counters : TransferCounters) (actor : Actor) :
    let pass := (run frame counters actor).2
    pass.events.filterMap (·.kind.forwarded?) = [] ∧ pass.calls.filterMap HostCall.forwarded? = [] ∧
      pass.events.countP (·.kind.isDivisionFault) = 0 := by
  intro pass
  have goes := goes_run frame counters actor
  cases outcome : run frame counters actor
  simp only [pass, outcome] at goes ⊢
  cases goes <;> exact ⟨rfl, rfl, rfl⟩

theorem DispatchStage.forwarded_calls (frame : Frame) (actor shown : Actor) :
    (branchCalls frame actor ++ [HostCall.finalize shown]).filterMap HostCall.forwarded? = [] := by
  simp only [branchCalls]
  split <;> rfl

namespace Frame

variable (frame : Frame) (id : ActorId) (codes : List EventCode)

theorem forwarded_forwardEvents : (codes.map (frame.forwardEvent id)).filterMap (·.kind.forwarded?) =
    codes.map fun code => (id, code, frame.config.eventParamCount) := by
  rw [List.filterMap_map, ← List.filterMap_eq_map]
  rfl

theorem forwarded_forwardCalls : (codes.map (frame.forwardCall id)).filterMap HostCall.forwarded? =
    codes.map fun code => (id, code, frame.config.eventParamCount) := by
  rw [List.filterMap_map, ← List.filterMap_eq_map]
  rfl

theorem countP_forwardEvents {trouble : EventKind → Bool}
    (other : ∀ code count, trouble (.forwarded id code count) = false) :
    (codes.map (frame.forwardEvent id)).countP (fun event => trouble event.kind) = 0 := by
  simp [forwardEvent, event, List.countP_map, Function.comp_def, other]

end Frame

namespace Pipeline

variable {frame : Frame} {stages : List Stage} (standard : IsStandard stages) (actor : Actor)
include standard

theorem forwarded_events : (pass frame stages actor).events.filterMap (·.kind.forwarded?) =
    (actor.codes frame).map fun code => (actor.id, code, frame.config.eventParamCount) := by
  rw [pass_events standard, List.filterMap_append, frame.forwarded_forwardEvents]
  split
  · exact List.append_nil _
  · rw [(TransferStage.quiet_run ..).1, List.append_nil]

theorem forwarded_calls : (pass frame stages actor).calls.filterMap HostCall.forwarded? =
    (actor.codes frame).map fun code => (actor.id, code, frame.config.eventParamCount) := by
  rw [pass_calls_eq standard, List.filterMap_append, frame.forwarded_forwardCalls, List.filterMap_append,
    DispatchStage.forwarded_calls, List.nil_append]
  split
  · exact List.append_nil _
  · rw [(TransferStage.quiet_run ..).2.1, List.append_nil]

/-- A refused division is logged once. -/
theorem divisionFault_events : (pass frame stages actor).events.countP (·.kind.isDivisionFault) =
    if (DispatchStage.refusal? frame actor).isSome then 1 else 0 := by
  rw [pass_events standard, List.countP_append, frame.countP_forwardEvents _ _ fun _ _ => rfl, Nat.zero_add]
  cases DispatchStage.refusal? frame actor with
  | some fault => rfl
  | none => exact (TransferStage.quiet_run ..).2.2

theorem unavailable_events : (pass frame stages actor).events.countP (·.kind.isUnavailable) =
    if (DispatchStage.refusal? frame actor).isSome then 0
    else (TransferStage.run frame {} (actor.dispatched frame)).2.events.countP (·.kind.isUnavailable) := by
  rw [pass_events standard, List.countP_append, frame.countP_forwardEvents _ _ fun _ _ => rfl, Nat.zero_add]
  cases DispatchStage.refusal? frame actor <;> rfl

theorem stores_pass : Turn.stores ⟨frame, actor, pass frame stages actor⟩ =
    if (DispatchStage.refusal? frame actor).isSome then false
    else
      let transferred := (TransferStage.run frame {} (actor.dispatched frame)).2
      !(transferred.calls.filterMap HostCall.loaded?).isEmpty &&
        !transferred.events.any (·.kind.isFailedLoad) := by
  have logged : ((actor.codes frame).map (frame.forwardEvent actor.id)).any (·.kind.isFailedLoad) = false := by
    simp [Frame.forwardEvent, Frame.event, EventKind.isFailedLoad]
  rw [Turn.stores, loads_pass standard, pass_events standard, List.any_append, logged]
  cases DispatchStage.refusal? frame actor <;> rfl

/-- The altitude settles when its code is forwarded. -/
theorem arrives_pass : (MotionStage.codes frame actor).length =
    if Turn.arrives ⟨frame, actor, pass frame stages actor⟩ then 1 else 0 := by
  have after : (pass frame stages actor).actor = actor.ticked frame :=
    (pass_actor ..).trans (run_standard_actor standard)
  rw [Turn.arrives, Turn.after, after, actor.altitude_ticked_eq, MotionStage.codes, MotionStage.announcement]
  cases active : actor.hasFlag .attractionActive with
  | false => simp
  | true =>
    cases settled : actor.altitude.isSettled <;>
      cases reached : (actor.altitude.step frame.config.attractionStep).isSettled <;>
        simp [MotionStage.climb, reached]

end Pipeline

namespace Counters

section
variable (counters : Counters) (frame : Frame) (actor : Actor)

def turn : Turn :=
  ⟨frame, actor, Pipeline.pass frame counters.stages actor⟩

theorem codes_after :
    ((counters.turn frame actor).pass.events.filterMap (·.kind.forwarded?)).length +
        (counters.timers.fired + counters.timers.rebroadcasts) =
      (counters.after frame actor).timers.fired + (counters.after frame actor).timers.rebroadcasts +
        if (counters.turn frame actor).arrives then 1 else 0 := by
  have timers : (counters.after frame actor).timers.fired +
        (counters.after frame actor).timers.rebroadcasts =
      counters.timers.fired + counters.timers.rebroadcasts + (TimerStage.codes frame actor).length :=
    TimerStage.counted_run frame counters.timers actor
  have arrives : (MotionStage.codes frame actor).length =
      if (counters.turn frame actor).arrives then 1 else 0 :=
    Pipeline.arrives_pass counters.isStandard_stages actor
  have told : (counters.turn frame actor).pass.events.filterMap (·.kind.forwarded?) = _ :=
    Pipeline.forwarded_events counters.isStandard_stages actor
  rw [told, List.length_map, Actor.codes, List.length_append]
  omega

theorem skippedAims_after : (counters.after frame actor).motion.skippedAims =
    counters.motion.skippedAims + if (counters.turn frame actor).skipsAim then 1 else 0 := by
  have turret : frame.turret? (TimerStage.advance actor) = frame.turret? actor := by
    rw [Frame.turret?, (TimerStage.advance_persists actor).turret]
    rfl
  have skipped := MotionStage.skippedAims_run frame counters.motion (TimerStage.advance actor)
  rw [TimerStage.active_advance, turret] at skipped
  exact skipped

theorem dispatched_after :
    (counters.after frame actor).dispatch.dispatched + (counters.after frame actor).dispatch.faults =
      counters.dispatch.dispatched + counters.dispatch.faults + 1 :=
  (DispatchStage.counted_run frame counters.dispatch (actor.moved frame)).1

theorem faults_after : (counters.after frame actor).dispatch.faults =
    counters.dispatch.faults + if (DispatchStage.refusal? frame actor).isSome then 1 else 0 := by
  have counted := (DispatchStage.counted_run frame counters.dispatch (actor.moved frame)).2.1
  rw [DispatchStage.refusal?_moved] at counted
  exact counted

theorem fallbacks_after : (counters.after frame actor).dispatch.fallbacks =
    counters.dispatch.fallbacks + if (counters.turn frame actor).fallsBack then 1 else 0 := by
  have counted := (DispatchStage.counted_run frame counters.dispatch (actor.moved frame)).2.2
  have status : (actor.moved frame).status = actor.status := by
    obtain ⟨timers, flags, pendingEvent, orientation, altitude, equation, _⟩ := actor.exists_moved frame
    rw [equation]
  have falls : (counters.turn frame actor).fallsBack = decide (4 ≤ actor.status.selector) := by
    have small : (counters.turn frame actor).before.status.selector ≤ 7 := actor.status.selector_le
    rw [Turn.fallsBack, decide_eq_true small, Bool.and_true]
    rfl
  rw [status] at counted
  simp only [falls, decide_eq_true_eq]
  exact counted

theorem unavailable_after : (counters.after frame actor).transfer.unavailable =
    counters.transfer.unavailable +
      (counters.turn frame actor).pass.events.countP (·.kind.isUnavailable) := by
  rw [turn, Pipeline.unavailable_events counters.isStandard_stages]
  simp only [after]
  split
  · rfl
  · rw [(TransferStage.counted_run frame counters.transfer (actor.dispatched frame)).1,
      TransferStage.run_pass]

theorem bytesCopied_after : (counters.after frame actor).transfer.bytesCopied =
    counters.transfer.bytesCopied +
      if (counters.turn frame actor).stores then (counters.turn frame actor).after.pathLength.toNat
      else 0 := by
  have stores : (counters.turn frame actor).stores = _ :=
    Pipeline.stores_pass counters.isStandard_stages actor
  rw [stores]
  cases refused : DispatchStage.refusal? frame actor with
  | some fault =>
    simp only [after, refused]
    rfl
  | none =>
    have counted := (TransferStage.counted_run frame counters.transfer (actor.dispatched frame)).2
    have path : (counters.turn frame actor).after =
        (TransferStage.run frame {} (actor.dispatched frame)).2.actor :=
      (Pipeline.pass_actor ..).trans (Pipeline.run_accepted counters.isStandard_stages actor refused)
    rw [TransferStage.run_pass] at counted
    rw [path]
    simp only [after, refused]
    exact counted

end
end Counters

/-- The counters of the stages after the turns that they have counted. -/
structure Tally (counters : Counters) (turns : List Turn) : Prop where
  codes : ((turns.flatMap (·.pass.events)).filterMap (·.kind.forwarded?)).length =
    counters.timers.fired + counters.timers.rebroadcasts + turns.countP Turn.arrives
  skippedAims : counters.motion.skippedAims = turns.countP Turn.skipsAim
  dispatched : counters.dispatch.dispatched + counters.dispatch.faults = turns.length
  faults : counters.dispatch.faults = turns.countP fun turn => turn.pass.error.isSome
  refusals : counters.dispatch.faults =
    (turns.flatMap (·.pass.events)).countP (·.kind.isDivisionFault)
  fallbacks : counters.dispatch.fallbacks = turns.countP Turn.fallsBack
  unavailable : counters.transfer.unavailable =
    (turns.flatMap (·.pass.events)).countP (·.kind.isUnavailable)
  bytesCopied : counters.transfer.bytesCopied =
    ((turns.filter Turn.stores).map fun turn => turn.after.pathLength.toNat).sum

namespace Tally

theorem initial : Tally {} [] := ⟨rfl, rfl, rfl, rfl, rfl, rfl, rfl, rfl⟩

section
variable {counters : Counters} {turns : List Turn} (tally : Tally counters turns)
include tally

theorem concat (frame : Frame) (actor : Actor) :
    Tally (counters.after frame actor) (turns ++ [counters.turn frame actor]) where
  codes := by
    have before := tally.codes
    have step := counters.codes_after frame actor
    rw [List.flatMap_append, List.filterMap_append, List.length_append, List.flatMap_singleton,
      List.countP_append, List.countP_singleton]
    omega
  skippedAims := by
    rw [counters.skippedAims_after, tally.skippedAims, List.countP_append, List.countP_singleton]
  dispatched := by
    rw [counters.dispatched_after, tally.dispatched, List.length_append, List.length_singleton]
  faults := by
    rw [counters.faults_after, tally.faults, List.countP_append, List.countP_singleton, Counters.turn,
      Pipeline.pass_error, Pipeline.run_error counters.isStandard_stages, Option.isSome_map]
  refusals := by
    rw [counters.faults_after, tally.refusals, List.flatMap_append, List.countP_append,
      List.flatMap_singleton, Counters.turn, Pipeline.divisionFault_events counters.isStandard_stages]
  fallbacks := by
    rw [counters.fallbacks_after, tally.fallbacks, List.countP_append, List.countP_singleton]
  unavailable := by
    rw [counters.unavailable_after, tally.unavailable, List.flatMap_append, List.countP_append,
      List.flatMap_singleton]
  bytesCopied := by
    rw [counters.bytesCopied_after, tally.bytesCopied, List.filter_append, List.map_append,
      List.sum_append, List.filter_singleton]
    cases (counters.turn frame actor).stores <;> rfl

/-- The stages count the turns of a tick. -/
theorem runAll (entries : List (Frame × Actor)) : ∃ after : Counters,
    (Pipeline.runAll counters.stages entries).1 = after.stages ∧
      Tally after (turns ++ entries.map fun entry => counters.turn entry.1 entry.2) := by
  induction entries generalizing counters turns with
  | nil => exact ⟨counters, rfl, (List.append_nil turns).symm ▸ tally⟩
  | cons entry rest ih =>
    obtain ⟨frame, actor⟩ := entry
    obtain ⟨after, stages, whole⟩ := ih (tally.concat frame actor)
    have same : (rest.map fun entry => (counters.after frame actor).turn entry.1 entry.2) =
        rest.map fun entry => counters.turn entry.1 entry.2 := by
      refine List.map_congr_left fun entry _ => congrArg (Turn.mk _ _) ?_
      exact Pipeline.pass_congr entry.1 entry.2 rfl
    rw [same, List.append_assoc] at whole
    refine ⟨after, ?_, whole⟩
    simp only [Pipeline.runAll, counters.run_stages, stages]

theorem ticked {moment : Moment} (stages : moment.engine.stages = counters.stages) :
    ∃ after : Counters, moment.ticked.engine.stages = after.stages ∧ Tally after (turns ++ moment.turns) := by
  obtain ⟨after, later, whole⟩ := tally.runAll (moment.engine.advanced.framed moment.answers)
  rw [← stages] at later
  refine ⟨after, later, ?_⟩
  simp only [Counters.turn, ← stages] at whole
  exact whole

end
end Tally

end Rotorcraft
