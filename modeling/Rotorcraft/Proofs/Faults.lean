import Mathlib.Data.List.Forall2
import Mathlib.Data.List.Nodup
import Rotorcraft.Proofs.Operation

/-! # Refused divisions

The pursuit division is the only thing that can end the tick of an actor early. Whether it is refused
can be told from the actor before the tick, because neither the timer stage nor the motion stage
touches what the offset and the mode are read from. A refused actor keeps what these two stages have
made of it; every other one goes through all stages.
-/

namespace Rotorcraft

/-- A division is refused if its quotient does not exist or does not fit. -/
theorem FixedPoint.fault?_eq_some_iff {numerator denominator : Int32} {fault : DivisionFault} :
    fault? numerator denominator = some fault ↔
      denominator = 0 ∧ fault = .byZero numerator ∨
        denominator = -1 ∧ numerator = Int32.minValue ∧ fault = .overflow numerator := by
  simp only [fault?]
  by_cases zero : denominator = 0
  · subst zero
    simp [eq_comm]
  · by_cases overflow : denominator = -1 ∧ numerator = Int32.minValue
    · simp [overflow, eq_comm]
    · rw [if_neg zero, if_neg overflow]
      constructor
      · rintro ⟨⟩
      · rintro (⟨none, _⟩ | ⟨one, least, _⟩)
        · exact absurd none zero
        · exact absurd ⟨one, least⟩ overflow

/-- What the guards of a division let through has a divisor and a quotient. -/
theorem FixedPoint.quotient_of_unguarded {numerator denominator : Int32}
    (accepted : fault? numerator denominator = none) :
    denominator ≠ 0 ∧ (numerator / denominator).toInt = numerator.toInt.tdiv denominator.toInt := by
  rw [fault?] at accepted
  split at accepted
  · cases accepted
  · next divisor =>
    split at accepted
    · cases accepted
    · next representable =>
      refine ⟨divisor, ?_⟩
      by_cases least : numerator = Int32.minValue
      · apply Int32.toInt_div_of_ne_right
        intro negative
        exact representable ⟨negative, least⟩
      · exact Int32.toInt_div_of_ne_left _ _ least

/-- The timer stage and the motion stage write the timers, the pending code with its latch, the
orientation and the altitude. -/
theorem Actor.exists_moved (frame : Frame) (actor : Actor) :
    ∃ timers flags pendingEvent orientation altitude,
      actor.moved frame =
        { actor with
          timers := timers
          flags := flags
          pendingEvent := pendingEvent
          orientation := orientation
          altitude := altitude } ∧
      ControlFlags.SameOutside .eventLatch flags actor.flags := by
  obtain ⟨orientation, altitude, equation⟩ :=
    MotionStage.exists_run_actor frame {} (TimerStage.advance actor)
  refine ⟨actor.timers.advance, (TimerStage.advance actor).flags,
    (TimerStage.advance actor).pendingEvent, orientation, altitude, ?_, TimerStage.advance_flags actor⟩
  rw [moved, TimerStage.run_actor, equation, TimerStage.advance_eq]

/-- Neither of these stages does any of the later work. -/
theorem Actor.untouched_moved (frame : Frame) (actor : Actor) :
    let stopped := (actor.moved frame).clearFlag .divisionSafe
    stopped.derived = actor.derived ∧ stopped.path = actor.path ∧
      stopped.pathLength = actor.pathLength ∧
      ∀ mask ∈ [ControlFlags.reloadPath, .transitioned, .secondaryPath],
        stopped.hasFlag mask = actor.hasFlag mask := by
  obtain ⟨timers, flags, pendingEvent, orientation, altitude, equation, same⟩ := actor.exists_moved frame
  rw [equation]
  refine ⟨rfl, rfl, rfl, fun mask chosen => ?_⟩
  have cleared := ControlFlags.SameOutside.remove .divisionSafe flags
  simp only [List.mem_cons, List.not_mem_nil, or_false] at chosen
  rcases chosen with rfl | rfl | rfl
  · exact (cleared.intersects_eq (by decide)).trans (same.intersects_eq (by decide))
  · exact (cleared.intersects_eq (by decide)).trans (same.intersects_eq (by decide))
  · exact (cleared.intersects_eq (by decide)).trans (same.intersects_eq (by decide))

namespace DispatchStage

variable (frame : Frame) (actor : Actor)

/-- The division that is refused to an actor, if one is. -/
def refusal? : Option DivisionFault :=
  if actor.status.selector = 1 then
    FixedPoint.fault? (pursuedOffset frame actor) frame.config.pursuitDivisor
  else none

theorem refusal?_eq_some_iff {fault : DivisionFault} : refusal? frame actor = some fault ↔
    actor.status.selector = 1 ∧
      (frame.config.pursuitDivisor = 0 ∧ fault = .byZero (pursuedOffset frame actor) ∨
        frame.config.pursuitDivisor = -1 ∧ pursuedOffset frame actor = Int32.minValue ∧
          fault = .overflow (pursuedOffset frame actor)) := by
  rw [refusal?]
  split
  · next pursuing => rw [FixedPoint.fault?_eq_some_iff, and_iff_right pursuing]
  · next other =>
    constructor
    · rintro ⟨⟩
    · rintro ⟨pursuing, _⟩
      exact absurd pursuing other

/-- The refusal of a division as the error that reports it. -/
theorem refused_iff {error : EngineError} :
    (∃ fault, refusal? frame actor = some fault ∧ error = .division fault) ↔
      actor.status.selector = 1 ∧
        (frame.config.pursuitDivisor = 0 ∧ error = .division (.byZero (pursuedOffset frame actor)) ∨
          frame.config.pursuitDivisor = -1 ∧ pursuedOffset frame actor = Int32.minValue ∧
            error = .division (.overflow (pursuedOffset frame actor))) := by
  simp only [refusal?_eq_some_iff]
  constructor
  · rintro ⟨fault, ⟨pursuing, reason⟩, rfl⟩
    obtain ⟨zero, rfl⟩ | ⟨one, least, rfl⟩ := reason
    · exact ⟨pursuing, .inl ⟨zero, rfl⟩⟩
    · exact ⟨pursuing, .inr ⟨one, least, rfl⟩⟩
  · rintro ⟨pursuing, ⟨zero, rfl⟩ | ⟨one, least, rfl⟩⟩
    · exact ⟨_, ⟨pursuing, .inl ⟨zero, rfl⟩⟩, rfl⟩
    · exact ⟨_, ⟨pursuing, .inr ⟨one, least, rfl⟩⟩, rfl⟩

/-- The offset depends on the position, the sub-mode and the secondary path only. -/
theorem pursuedOffset_congr {actor other : Actor} {mask : ControlFlags}
    (position : other.position = actor.position)
    (same : ControlFlags.SameOutside mask other.flags actor.flags)
    (subMode : mask.bits &&& ControlFlags.subModeField.bits = 0)
    (path : mask.bits &&& ControlFlags.secondaryPath.bits = 0) :
    pursuedOffset frame other = pursuedOffset frame actor := by
  have threshold : frame.config.threshold other.flags = frame.config.threshold actor.flags :=
    congrArg frame.config.pursuitThresholds.get
      (Fin.ext (congrArg UInt8.toNat (same.subMode_eq subMode)))
  have secondary : other.hasFlag .secondaryPath = actor.hasFlag .secondaryPath :=
    same.intersects_eq path
  have primaryOffsets : primaryOffset frame other = primaryOffset frame actor := by
    rw [primaryOffset, primaryOffset, position]
  have secondaryOffsets : secondaryOffset frame other = secondaryOffset frame actor := by
    rw [secondaryOffset, secondaryOffset, position]
  rw [pursuedOffset, pursuedOffset, primaryOffsets, secondaryOffsets, secondary, threshold]

theorem refusal?_congr {actor other : Actor} {mask : ControlFlags} (status : other.status = actor.status)
    (position : other.position = actor.position)
    (same : ControlFlags.SameOutside mask other.flags actor.flags)
    (subMode : mask.bits &&& ControlFlags.subModeField.bits = 0)
    (path : mask.bits &&& ControlFlags.secondaryPath.bits = 0) :
    refusal? frame other = refusal? frame actor := by
  rw [refusal?, refusal?, status, pursuedOffset_congr frame position same subMode path]

/-- Whether a division will be refused is known before the tick. -/
theorem refusal?_moved : refusal? frame (actor.moved frame) = refusal? frame actor := by
  obtain ⟨timers, flags, pendingEvent, orientation, altitude, equation, same⟩ :=
    actor.exists_moved frame
  rw [equation]
  exact refusal?_congr frame rfl rfl same (by decide) (by decide)

/-- A branch fails if a division is refused, and for no other reason. -/
theorem branch_cases :
    (∃ fault, refusal? frame actor = some fault ∧ branch frame actor = .error fault) ∨
      ∃ next, refusal? frame actor = none ∧ branch frame actor = .ok next := by
  by_cases pursuing : actor.status.selector = 1
  · have mode : actor.mode = .pursue := actor.status.mode_eq_pursue_iff.mpr pursuing
    simp only [refusal?, pursuing, if_true, branch, mode, pursue, FixedPoint.safeDivide]
    cases FixedPoint.fault? (pursuedOffset frame actor) frame.config.pursuitDivisor with
    | some fault => exact .inl ⟨fault, rfl, rfl⟩
    | none => exact .inr ⟨_, rfl, rfl⟩
  · have mode : actor.mode ≠ .pursue := mt actor.status.mode_eq_pursue_iff.mp pursuing
    have accepted : refusal? frame actor = none := if_neg pursuing
    right
    simp only [branch]
    cases selected : actor.mode with
    | pursue => exact absurd selected mode
    | _ => exact ⟨_, accepted, rfl⟩

theorem run_error (counters : DispatchCounters) :
    (run frame counters actor).2.error = (refusal? frame actor).map .division := by
  obtain ⟨fault, refused, failed⟩ | ⟨next, accepted, success⟩ := branch_cases frame actor
  · rw [refused, (run_fault frame counters failed).2]
    rfl
  · rw [accepted, (run_ok frame counters success).2]
    rfl

/-- The flag of safe division tells whether the division went through. -/
theorem divisionSafe_run (counters : DispatchCounters) :
    (run frame counters actor).2.actor.hasFlag .divisionSafe = (refusal? frame actor).isNone := by
  obtain ⟨fault, refused, failed⟩ | ⟨next, accepted, success⟩ := branch_cases frame actor
  · rw [refused, (run_fault frame counters failed).1]
    exact ControlFlags.intersects_remove_self _ _
  · rw [accepted, (run_ok frame counters success).1]
    exact ControlFlags.intersects_insert_self _ (by decide)

end DispatchStage

/-- After a refused division, the flag of safe division is cleared and nothing else is done. -/
theorem Actor.finished_refused {frame : Frame} {actor : Actor} {fault : DivisionFault}
    (refused : DispatchStage.refusal? frame actor = some fault) :
    actor.finished frame = actor.clearFlag .divisionSafe := by
  obtain ⟨_, _, failed⟩ | ⟨_, accepted, _⟩ := DispatchStage.branch_cases frame actor
  · rw [finished, failed]
  · rw [refused] at accepted
    cases accepted

namespace HostCall

def finalized? : HostCall → Option Actor
  | .finalize actor => some actor
  | _ => none

end HostCall

namespace Frame

theorem finalized_forward (frame : Frame) (actor : Actor) (codes : List EventCode) :
    (frame.forward actor codes).calls.filterMap HostCall.finalized? = [] := by
  simp [forward, forwardCall, HostCall.finalized?]

end Frame

theorem TimerStage.finalized_run (frame : Frame) (counters : TimerCounters) (actor : Actor) :
    (run frame counters actor).2.calls.filterMap HostCall.finalized? = [] := by
  simp only [run]
  split <;> exact frame.finalized_forward _ _

theorem MotionStage.finalized_run (frame : Frame) (counters : MotionCounters) (actor : Actor) :
    (run frame counters actor).2.calls.filterMap HostCall.finalized? = [] := by
  simp only [run]
  split
  · rfl
  · split <;> exact frame.finalized_forward _ _

/-- A dispatch shows the actor to the host once, as it stands at the end. -/
theorem DispatchStage.finalized_run (frame : Frame) (counters : DispatchCounters) (actor : Actor) :
    (run frame counters actor).2.calls.filterMap HostCall.finalized? =
      [(run frame counters actor).2.actor] := by
  have none : (branchCalls frame actor).filterMap HostCall.finalized? = [] := by
    simp only [branchCalls]
    split <;> rfl
  simp only [run, dispatch]
  split <;> simp [none, HostCall.finalized?]

theorem TransferStage.finalized_run (frame : Frame) (counters : TransferCounters) (actor : Actor) :
    (run frame counters actor).2.calls.filterMap HostCall.finalized? = [] := by
  simp only [run, load, store]
  repeat' split
  all_goals rfl

namespace Pipeline

variable {frame : Frame} {stages : List Stage} {actor : Actor}

theorem run_error (standard : IsStandard stages) :
    (run frame stages actor).2.error = (DispatchStage.refusal? frame actor).map .division := by
  have dispatch := DispatchStage.run_error frame (actor.moved frame) {}
  rw [DispatchStage.refusal?_moved] at dispatch
  rw [run_standard standard, ← dispatch]
  simp only [Pass.followedBy]
  split
  · rfl
  · next passed =>
    rw [Option.not_isSome_iff_eq_none] at passed
    rw [passed, TransferStage.run_error]

/-- An actor whose division is refused keeps what the timer stage and the motion stage made of it. -/
theorem run_refused (standard : IsStandard stages) {fault : DivisionFault}
    (refused : DispatchStage.refusal? frame actor = some fault) :
    (run frame stages actor).2.actor = (actor.moved frame).clearFlag .divisionSafe := by
  have late := (DispatchStage.refusal?_moved frame actor).trans refused
  rw [run_standard_actor standard, Actor.ticked, Actor.finished_refused late]

/-- The flag of safe division tells after the tick whether the division went through. -/
theorem divisionSafe_run (standard : IsStandard stages) :
    (run frame stages actor).2.actor.hasFlag .divisionSafe =
      (DispatchStage.refusal? frame actor).isNone := by
  have dispatch := DispatchStage.divisionSafe_run frame (actor.moved frame) {}
  rw [DispatchStage.refusal?_moved] at dispatch
  rw [run_standard standard, ← dispatch]
  simp only [Pass.followedBy]
  split
  · rfl
  · obtain ⟨flags, path, pathLength, equation, same⟩ :=
      TransferStage.exists_run_actor frame {} (actor.dispatched frame)
    simp only [equation]
    exact same.intersects_eq (by decide)

/-- A pass shows the actor to the host once, as it stands at the end of its dispatch. -/
theorem finalized_run (standard : IsStandard stages) :
    (run frame stages actor).2.calls.filterMap HostCall.finalized? = [actor.dispatched frame] := by
  have dispatch := DispatchStage.finalized_run frame {} (actor.moved frame)
  rw [run_standard standard]
  simp only [Pass.followedBy, List.filterMap_append, TimerStage.finalized_run,
    MotionStage.finalized_run, List.nil_append]
  split
  · exact dispatch
  · simp only [List.filterMap_append, TransferStage.finalized_run, List.append_nil]
    exact dispatch

end Pipeline

namespace Engine

theorem processed_add_faults (tick : UInt64) (passes : List Pass) :
    (report tick passes).processed + (report tick passes).faults.length = passes.length := by
  induction passes with
  | nil => rfl
  | cons pass rest ih =>
    simp only [report] at ih ⊢
    cases outcome : pass.error <;> simp [outcome, ← ih] <;> omega

/-- Every actor is counted once in a tick, as processed or as a fault. -/
theorem total_tickWith (engine : Engine) (answers : HostAnswers) :
    (engine.tickWith answers).report.processed + (engine.tickWith answers).report.faults.length =
      engine.actors.length := by
  rw [tickWith_report, processed_add_faults, passes, List.length_map, framed, List.length_mapIdx]
  rfl

theorem faults_sublist (tick : UInt64) (passes : List Pass) :
    ((report tick passes).faults.map Prod.fst).Sublist (passes.map (·.actor.id)) := by
  induction passes with
  | nil => exact .slnil
  | cons pass rest ih =>
    simp only [report] at ih ⊢
    cases outcome : pass.error with
    | none => simpa [outcome] using ih.cons _
    | some error => simpa [outcome] using ih

section
variable {engine : Engine} (standard : engine.IsStandard) (answers : HostAnswers)
include standard

/-- The report lists the refused divisions in tick order. -/
theorem faults_tickWith : (engine.tickWith answers).report.faults =
    (engine.advanced.framed answers).filterMap fun entry =>
      (DispatchStage.refusal? entry.1 entry.2).map fun fault => (entry.2.id, .division fault) := by
  rw [tickWith_report, report, passes, List.filterMap_map]
  refine List.filterMap_congr fun entry _ => ?_
  simp only [Function.comp_apply, Pipeline.pass_error, Pipeline.pass_actor, Pipeline.run_error standard,
    (Pipeline.run_persists standard entry.2).id, Option.map_map]
  rfl

/-- An actor is reported if its division is refused, and with that refusal. -/
theorem mem_faults_iff (distinct : engine.ids.Nodup) {entry : Frame × Actor}
    (member : entry ∈ engine.advanced.framed answers) (error : EngineError) :
    (entry.2.id, error) ∈ (engine.tickWith answers).report.faults ↔
      ∃ fault, DispatchStage.refusal? entry.1 entry.2 = some fault ∧ error = .division fault := by
  rw [faults_tickWith standard, List.mem_filterMap]
  constructor
  · rintro ⟨other, listed, reported⟩
    obtain ⟨fault, refused, same⟩ := Option.map_eq_some_iff.mp reported
    obtain ⟨id, rfl⟩ := Prod.mk.inj same
    obtain ⟨live, host, frame⟩ := mem_framed member
    obtain ⟨otherLive, otherHost, otherFrame⟩ := mem_framed listed
    have one : other.2 = entry.2 := List.inj_on_of_nodup_map distinct otherLive live id
    rw [otherFrame, one] at refused
    rw [frame]
    exact ⟨fault, refused, rfl⟩
  · rintro ⟨fault, refused, rfl⟩
    exact ⟨entry, member, by rw [refused]; rfl⟩

/-- Every actor is shown to the host once, as it stands at the end of its dispatch. -/
theorem finalized_tickWith : (engine.tickWith answers).calls.filterMap HostCall.finalized? =
    (engine.advanced.framed answers).map fun entry => entry.2.dispatched entry.1 := by
  rw [tickWith_calls, passes, List.flatMap_map, List.filterMap_flatMap]
  simp only [Pipeline.pass_calls, Pipeline.finalized_run standard]
  exact (List.map_eq_flatMap ..).symm

end

/-- What becomes of an actor in a tick that reports `faults`. -/
structure Settled (faults : List (ActorId × EngineError)) (frame : Frame) (before after : Actor) : Prop
    where
  /-- It is reported if it pursues and its offset has no quotient, with that offset. -/
  reported : ∀ error, (before.id, error) ∈ faults ↔ before.status.selector = 1 ∧
    (frame.config.pursuitDivisor = 0 ∧
        error = .division (.byZero (DispatchStage.pursuedOffset frame before)) ∨
      frame.config.pursuitDivisor = -1 ∧ DispatchStage.pursuedOffset frame before = Int32.minValue ∧
        error = .division (.overflow (DispatchStage.pursuedOffset frame before)))
  /-- If it is reported, it is as the motion stage left it, with one flag cleared. -/
  stopped : ∀ error, (before.id, error) ∈ faults →
    after = (before.moved frame).clearFlag .divisionSafe
  /-- If it is reported, then nothing of the later work was done. -/
  untouched : ∀ error, (before.id, error) ∈ faults →
    after.derived = before.derived ∧ after.path = before.path ∧ after.pathLength = before.pathLength ∧
      ∀ mask ∈ [ControlFlags.reloadPath, .transitioned, .secondaryPath],
        after.hasFlag mask = before.hasFlag mask
  /-- The flag of safe division tells whether it was reported. -/
  safe : after.hasFlag .divisionSafe = true ↔ ∀ error, (before.id, error) ∉ faults
  id : after.id = before.id

theorem settled {engine : Engine} (standard : engine.IsStandard) (distinct : engine.ids.Nodup)
    (answers : HostAnswers) {entry : Frame × Actor} (member : entry ∈ engine.advanced.framed answers) :
    Settled (engine.tickWith answers).report.faults entry.1 entry.2
      (Pipeline.pass entry.1 engine.stages entry.2).actor := by
  have listed := mem_faults_iff standard answers distinct member
  have stopped (error : EngineError)
      (reported : (entry.2.id, error) ∈ (engine.tickWith answers).report.faults) :
      (Pipeline.pass entry.1 engine.stages entry.2).actor =
        (entry.2.moved entry.1).clearFlag .divisionSafe := by
    obtain ⟨fault, refused, _⟩ := (listed error).mp reported
    rw [Pipeline.pass_actor, Pipeline.run_refused standard refused]
  refine ⟨fun error => ?_, stopped, fun error reported => ?_, ?_, ?_⟩
  · exact (listed error).trans (DispatchStage.refused_iff ..)
  · rw [stopped error reported]
    exact entry.2.untouched_moved entry.1
  · rw [Pipeline.pass_actor, Pipeline.divisionSafe_run standard]
    simp only [listed]
    cases DispatchStage.refusal? entry.1 entry.2 <;> simp
  · rw [Pipeline.pass_actor]
    exact (Pipeline.run_persists standard entry.2).id

/-- What a tick does about divisions. -/
structure TickSettled (engine : Engine) (answers : HostAnswers) : Prop where
  actors : List.Forall₂
    (fun entry after => Settled (engine.tickWith answers).report.faults entry.1 entry.2 after)
    (engine.advanced.framed answers) (engine.tickWith answers).engine.actors
  /-- Only actors are reported, in tick order and each of them once. -/
  order : ((engine.tickWith answers).report.faults.map Prod.fst).Sublist engine.ids
  total : (engine.tickWith answers).report.processed + (engine.tickWith answers).report.faults.length =
    engine.actors.length
  /-- The host sees every actor once, as it stands at the end of its dispatch. -/
  finalized : (engine.tickWith answers).calls.filterMap HostCall.finalized? =
    (engine.advanced.framed answers).map fun entry => entry.2.dispatched entry.1

theorem tickSettled_of_standard {engine : Engine} (standard : engine.IsStandard)
    (distinct : engine.ids.Nodup) (answers : HostAnswers) : engine.TickSettled answers where
  actors := by
    rw [tickWith_actors, passes, List.map_map, List.forall₂_map_right_iff, List.forall₂_same]
    intro entry member
    exact settled standard distinct answers member
  order := by
    have ids := ids_tickWith engine answers
    rw [Engine.ids, tickWith_actors, List.map_map] at ids
    rw [tickWith_report, ← ids]
    exact faults_sublist _ _
  total := total_tickWith engine answers
  finalized := finalized_tickWith standard answers

/-- In every state that a standard engine gets into, a tick reports the pursuits without a quotient and
nothing else, and it leaves everything of the reported actors that comes after the refusal alone. -/
theorem tick_settled {config : Config} {start : Engine} (new : Engine.new config = .ok start)
    {operations : List Operation} (fresh : (drawnIds operations).Nodup) (answers : HostAnswers) :
    (start.performAll operations).TickSettled answers :=
  tickSettled_of_standard ((continues_performAll start operations).standard (standard_of_new new))
    (ids_nodup new fresh) answers

/-- An offset that wraps to the least word has no quotient by minus one. -/
theorem tick_settled_overflow : ∃ start, Engine.new { pursuitDivisor := -1 } = .ok start ∧
    let engine := start.performAll
      [.setReference { primaryTarget := { x := Int32.maxValue } },
        .spawn ⟨.ofNat 1⟩ { name := "chaser", mode := 1, position := { x := -1 } },
        .spawn ⟨.ofNat 2⟩ { name := "idler" }]
    engine.tick.report.faults = [(⟨.ofNat 1⟩, .division (.overflow Int32.minValue))] ∧
      engine.TickSettled fun _ => engine.host :=
  ⟨_, rfl, by decide, @tick_settled { pursuitDivisor := -1 } _ rfl _ (by decide) _⟩

end Engine
end Rotorcraft
