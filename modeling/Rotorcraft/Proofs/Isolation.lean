import Mathlib.Algebra.GroupWithZero.Nat
import Mathlib.Data.List.Forall2
import Mathlib.Data.List.Perm.Basic
import Mathlib.Logic.Function.Iterate
import Rotorcraft.Proofs.Operation

/-! # Isolation of actors

The actors of an engine share its stages, its log and its host, yet none of them notices the others:
each goes through a run as it would in an engine of its own, and what the engine logs, reports and
calls in a tick is what those engines would, one after the other. Of the turrets, an actor notices
only the one that its handle stands for.
-/

namespace Rotorcraft

def Frame.advanced (frame : Frame) : Frame :=
  { frame with clock := frame.clock.advance }

/-- What becomes of an actor that goes through ticks of the standard pipeline by itself. -/
def Actor.after (frame : Frame) (actor : Actor) : Nat → Actor
  | 0 => actor
  | count + 1 =>
    Actor.after frame.advanced (Pipeline.pass frame.advanced Stage.standard actor).actor count

namespace Engine

/-- An engine in the same surroundings that holds one actor and has logged and counted nothing. -/
def alone (engine : Engine) (actor : Actor) : Engine :=
  { engine with actors := [actor], log := {}, stages := Stage.standard }

def tickAfter (engine : Engine) (count : Nat) : Ticked :=
  (engine.run count).engine.tick

/-- What an actor sees of an engine between two ticks. -/
def ownFrame (engine : Engine) : Frame :=
  engine.frame engine.host

section Runs
variable {engine : Engine}

theorem passes_own (standard : engine.IsStandard) : engine.passes (fun _ => engine.host) =
    engine.actors.map (Pipeline.pass engine.ownFrame.advanced Stage.standard) := by
  rw [passes, framed_const, List.map_map]
  exact List.map_congr_left fun actor _ => standard.pass_eq _ actor

theorem run_succ (engine : Engine) (count : Nat) :
    (engine.run (count + 1)).engine = (engine.tick.engine.run count).engine := rfl

theorem IsStandard.run (standard : engine.IsStandard) (count : Nat) :
    (engine.run count).engine.IsStandard :=
  runWith_keeps (fun _ answers kept => kept.tickWith answers) standard _

theorem ownFrame_run (engine : Engine) (count : Nat) :
    (engine.run count).engine.ownFrame = Frame.advanced^[count] engine.ownFrame := by
  induction count generalizing engine with
  | zero => rfl
  | succ count ih =>
    rw [run_succ, ih, Function.iterate_succ_apply]
    rfl

theorem capacity_run (engine : Engine) (count : Nat) :
    (engine.run count).engine.log.capacity = engine.log.capacity :=
  runWith_keeps (P := fun later => later.log.capacity = engine.log.capacity)
    (fun later answers kept => (tickWith_capacity later answers).trans kept) rfl _

/-- After a run, every actor has become what it becomes by itself. -/
theorem actors_run (standard : engine.IsStandard) (count : Nat) :
    (engine.run count).engine.actors =
      engine.actors.map fun actor => actor.after engine.ownFrame count := by
  induction count generalizing engine with
  | zero => exact (List.map_id' _).symm
  | succ count ih =>
    have next : engine.tick.engine.actors = engine.actors.map fun actor =>
        (Pipeline.pass engine.ownFrame.advanced Stage.standard actor).actor := by
      rw [tick, tickWith_actors, passes_own standard, List.map_map]
      rfl
    have later := ih (standard.tickWith fun _ => engine.host)
    change (engine.tick.engine.run count).engine.actors = _ at later
    rw [run_succ, later, show (engine.tickWith _).engine.actors = _ from next, List.map_map]
    rfl

/-- The passes of a later tick are those of what the actors have become. -/
theorem passes_run (standard : engine.IsStandard) (count : Nat) :
    (engine.run count).engine.passes (fun _ => (engine.run count).engine.host) =
      engine.actors.map fun actor =>
        Pipeline.pass (Frame.advanced^[count] engine.ownFrame).advanced Stage.standard
          (actor.after engine.ownFrame count) := by
  rw [passes_own (standard.run count), actors_run standard, ownFrame_run, List.map_map]
  rfl

end Runs

/-- Two engines that differ at most in what they have counted and in turrets that no actor holds. -/
structure Alike (first second : Engine) : Prop where
  actors : first.actors = second.actors
  reference : first.reference = second.reference
  clock : first.clock = second.clock
  config : first.config = second.config
  log : first.log = second.log
  host : first.host = second.host
  standard : first.IsStandard ∧ second.IsStandard
  turrets : ∀ actor ∈ first.actors,
    actor.turret.bind first.turrets.get? = actor.turret.bind second.turrets.get?

end Engine

/-- The motion stage looks at the turret of the actor's handle only. -/
theorem MotionStage.run_turrets {frame : Frame} {turrets : TurretStore} {actor : Actor}
    (same : actor.turret.bind turrets.get? = actor.turret.bind frame.turrets.get?) :
    MotionStage.run { frame with turrets := turrets } {} actor = MotionStage.run frame {} actor := by
  have resolved : Frame.turret? { frame with turrets := turrets }
      (climb { frame with turrets := turrets } (turn actor)) = frame.turret? (climb frame (turn actor)) :=
    same
  simp only [run]
  split
  · rfl
  · rw [resolved]
    rfl

/-- The standard pipeline looks at the turret of the actor's handle only. -/
theorem Pipeline.run_turrets {frame : Frame} {turrets : TurretStore} {actor : Actor}
    (same : actor.turret.bind turrets.get? = actor.turret.bind frame.turrets.get?) :
    (Pipeline.run { frame with turrets := turrets } Stage.standard actor).2 =
      (Pipeline.run frame Stage.standard actor).2 := by
  have handle := (TimerStage.advance_persists actor).turret
  have motion : MotionStage.run { frame with turrets := turrets } {} (TimerStage.advance actor) =
      MotionStage.run frame {} (TimerStage.advance actor) :=
    MotionStage.run_turrets (by rw [handle]; exact same)
  have moved : actor.moved { frame with turrets := turrets } = actor.moved frame := by
    simp only [Actor.moved, TimerStage.run_actor, motion]
  rw [run_standard isStandard_standard, run_standard isStandard_standard]
  simp only [TimerStage.run_actor, motion, moved, Actor.dispatched]
  rfl

theorem Pipeline.logAbort_turrets (frame : Frame) (turrets : TurretStore) (pass : Pass) :
    logAbort { frame with turrets := turrets } pass = logAbort frame pass := rfl

theorem Pipeline.pass_turrets {frame : Frame} {turrets : TurretStore} {actor : Actor}
    (same : actor.turret.bind turrets.get? = actor.turret.bind frame.turrets.get?) :
    pass { frame with turrets := turrets } Stage.standard actor = pass frame Stage.standard actor := by
  simp only [pass, run_turrets same]
  exact logAbort_turrets frame turrets _

namespace Engine.Alike

variable {first second : Engine}

theorem framed_eq (alike : Alike first second) (answers : HostAnswers) :
    second.advanced.framed answers = (first.advanced.framed answers).map fun entry =>
      ({ entry.1 with turrets := second.turrets }, entry.2) := by
  refine framed_eq_map first.advanced answers second.advanced
    (fun frame => { frame with turrets := second.turrets }) alike.actors.symm fun host => ?_
  simp only [advanced, frame, alike.reference, alike.clock, alike.config]

theorem passes_eq (alike : Alike first second) (answers : HostAnswers) :
    first.passes answers = second.passes answers := by
  rw [passes, passes, alike.framed_eq, List.map_map]
  refine List.map_congr_left fun entry member => ?_
  obtain ⟨live, host, same⟩ := mem_framed member
  have resolved : entry.2.turret.bind second.turrets.get? = entry.2.turret.bind entry.1.turrets.get? := by
    rw [same]
    exact (alike.turrets entry.2 live).symm
  calc Pipeline.pass entry.1 first.stages entry.2
    _ = Pipeline.pass entry.1 Stage.standard entry.2 := alike.standard.1.pass_eq _ _
    _ = Pipeline.pass { entry.1 with turrets := second.turrets } Stage.standard entry.2 :=
      (Pipeline.pass_turrets resolved).symm
    _ = Pipeline.pass { entry.1 with turrets := second.turrets } second.stages entry.2 :=
      (alike.standard.2.pass_eq _ _).symm

/-- Alike engines report and call the same in a tick, and they stay alike. -/
theorem tickWith (alike : Alike first second) (answers : HostAnswers) :
    (first.tickWith answers).report = (second.tickWith answers).report ∧
      (first.tickWith answers).calls = (second.tickWith answers).calls ∧
      Alike (first.tickWith answers).engine (second.tickWith answers).engine := by
  have passes := alike.passes_eq answers
  refine ⟨?_, ?_, ?_⟩
  · rw [tickWith_report, tickWith_report, passes, alike.clock]
  · rw [tickWith_calls, tickWith_calls, passes]
  · constructor
    · rw [tickWith_actors, tickWith_actors, passes]
    · exact alike.reference
    · exact congrArg Clock.advance alike.clock
    · exact alike.config
    · rw [tickWith_log, tickWith_log, passes, alike.log]
    · exact alike.host
    · exact ⟨alike.standard.1.tickWith answers, alike.standard.2.tickWith answers⟩
    · intro after member
      obtain ⟨before, live, host, rfl⟩ := mem_tickWith member
      rw [(Pipeline.run_persists alike.standard.1 before).turret]
      exact alike.turrets before live

theorem runWith (alike : Alike first second) (answers : List HostAnswers) :
    (first.runWith answers).reports = (second.runWith answers).reports ∧
      (first.runWith answers).calls = (second.runWith answers).calls ∧
      Alike (first.runWith answers).engine (second.runWith answers).engine := by
  induction answers generalizing first second with
  | nil => exact ⟨rfl, rfl, alike⟩
  | cons given later ih =>
    obtain ⟨report, calls, next⟩ := alike.tickWith given
    obtain ⟨reports, laterCalls, last⟩ := ih next
    refine ⟨?_, ?_, last⟩
    · simp only [Engine.runWith, report, reports]
    · simp only [Engine.runWith, calls, laterCalls]

end Engine.Alike

namespace Engine

/-- The actors of an engine do not notice each other. -/
structure Isolated (engine : Engine) : Prop where
  /-- Every actor ends a run as it ends one alone. -/
  actors : ∀ count, List.Forall₂
    (fun initial final => ((engine.alone initial).run count).engine.actors = [final])
    engine.actors (engine.run count).engine.actors
  /-- A run of one actor depends on the turrets through the one that its handle stands for. -/
  turrets : ∀ count, ∀ actor ∈ engine.actors, ∀ turrets : TurretStore,
    actor.turret.bind turrets.get? = actor.turret.bind engine.turrets.get? →
    let other := ({ engine.alone actor with turrets := turrets } : Engine).run count
    let own := (engine.alone actor).run count
    other.engine.actors = own.engine.actors ∧ other.engine.log = own.engine.log ∧
      other.reports = own.reports ∧ other.calls = own.calls
  /-- Every tick logs what the actors log in theirs, one after the other. -/
  log : ∀ count, ∃ logged : Actor → List Event,
    (∀ actor ∈ engine.actors, ((engine.alone actor).tickAfter count).engine.log.toList =
      ((engine.alone actor).run count).engine.log.toList ++ logged actor) ∧
    (engine.tickAfter count).engine.log.toList =
      (engine.run count).engine.log.toList ++ engine.actors.flatMap logged
  /-- Every tick makes the calls that the actors make in theirs, one after the other. -/
  calls : ∀ count, (engine.tickAfter count).calls =
    engine.actors.flatMap fun actor => ((engine.alone actor).tickAfter count).calls
  /-- Every tick reports the faults that the actors have in theirs, one after the other. -/
  faults : ∀ count, (engine.tickAfter count).report.faults =
    engine.actors.flatMap fun actor => ((engine.alone actor).tickAfter count).report.faults
  processed : ∀ count, (engine.tickAfter count).report.processed =
    (engine.actors.map fun actor => ((engine.alone actor).tickAfter count).report.processed).sum
  /-- Actors in another order become the same, each of them where it stands. -/
  permuted : ∀ count (actors : List Actor), actors.Perm engine.actors →
    (actors.zip (({ engine with actors := actors } : Engine).run count).engine.actors).Perm
      (engine.actors.zip (engine.run count).engine.actors)

section
variable {engine : Engine}

theorem alone_standard (engine : Engine) (actor : Actor) : (engine.alone actor).IsStandard := rfl

theorem passes_alone (engine : Engine) (actor : Actor) (count : Nat) :
    ((engine.alone actor).run count).engine.passes
        (fun _ => ((engine.alone actor).run count).engine.host) =
      [Pipeline.pass (Frame.advanced^[count] engine.ownFrame).advanced Stage.standard
        (actor.after engine.ownFrame count)] :=
  passes_run (alone_standard engine actor) count

/-- What is read off the passes of a tick one by one is put together from what each actor does alone. -/
theorem flatMap_passes_run {β : Type} (standard : engine.IsStandard) (count : Nat)
    (view : List Pass → List β)
    (piecewise : ∀ passes, view passes = passes.flatMap fun pass => view [pass]) :
    view ((engine.run count).engine.passes fun _ => (engine.run count).engine.host) =
      engine.actors.flatMap fun actor => view (((engine.alone actor).run count).engine.passes
        fun _ => ((engine.alone actor).run count).engine.host) := by
  rw [piecewise, passes_run standard, List.flatMap_map]
  simp only [passes_alone]

private theorem turrets_alone (engine : Engine) (count : Nat) (actor : Actor) (turrets : TurretStore)
    (same : actor.turret.bind turrets.get? = actor.turret.bind engine.turrets.get?) :
    let other := ({ engine.alone actor with turrets := turrets } : Engine).run count
    let own := (engine.alone actor).run count
    other.engine.actors = own.engine.actors ∧ other.engine.log = own.engine.log ∧
      other.reports = own.reports ∧ other.calls = own.calls := by
  have alike : Alike { engine.alone actor with turrets := turrets } (engine.alone actor) := by
    refine ⟨rfl, rfl, rfl, rfl, rfl, rfl, ⟨rfl, rfl⟩, fun other member => ?_⟩
    obtain rfl := List.mem_singleton.mp member
    exact same
  obtain ⟨reports, calls, last⟩ := alike.runWith (List.replicate count fun _ => engine.host)
  exact ⟨last.actors, last.log, reports, calls⟩

/-- In an engine with the standard pipeline and an unlimited log, actors do not notice each other. -/
theorem isolated_of_standard (standard : engine.IsStandard) (unlimited : engine.log.capacity = 0) :
    engine.Isolated where
  actors count := by
    rw [actors_run standard, List.forall₂_map_right_iff, List.forall₂_same]
    intro actor _
    exact actors_run (alone_standard engine actor) count
  turrets count actor _ turrets same := turrets_alone engine count actor turrets same
  log count := by
    refine ⟨fun actor => ((((engine.alone actor).run count).engine.passes
      fun _ => ((engine.alone actor).run count).engine.host)).flatMap (·.events), ?_, ?_⟩
    · intro actor _
      rw [tickAfter, tick, tickWith_log, EventLog.toList_append]
      exact capacity_run _ _
    · rw [tickAfter, tick, tickWith_log, EventLog.toList_append ((capacity_run _ _).trans unlimited)]
      congr 1
      exact flatMap_passes_run standard count (·.flatMap (·.events)) (by simp)
  calls count := by
    simp only [tickAfter, tick, tickWith_calls]
    exact flatMap_passes_run standard count (·.flatMap (·.calls)) (by simp)
  faults count := by
    simp only [tickAfter, tick, tickWith_report, report]
    exact flatMap_passes_run standard count
      (·.filterMap fun pass => pass.error.map fun error => (pass.actor.id, error))
      (by simp [List.filterMap_eq_flatMap_toList])
  processed count := by
    simp only [tickAfter, tick, tickWith_report, report]
    simp only [← List.filterMap_eq_filter]
    rw [flatMap_passes_run standard count (·.filterMap (Option.guard fun pass => pass.error.isNone))
      (by simp [List.filterMap_eq_flatMap_toList]), List.length_flatMap]
  permuted count actors shuffled := by
    have same : ({ engine with actors := actors } : Engine).IsStandard := standard
    rw [actors_run standard, actors_run same, ← List.map_prod_left_eq_zip, ← List.map_prod_left_eq_zip]
    exact shuffled.map _

/-- In every state that a standard engine with an unlimited log gets into, no actor notices another. -/
theorem actors_isolated {config : Config} {start : Engine} (new : Engine.new config = .ok start)
    (unlimited : config.maxEvents = 0) (host : Host) (operations : List Operation) :
    (({ start with host := host } : Engine).performAll operations).Isolated := by
  have continues := continues_performAll { start with host := host } operations
  refine isolated_of_standard (continues.standard (show start.IsStandard from standard_of_new new)) ?_
  rw [continues.capacity, eq_of_new new]
  exact unlimited

/-- An actor whose pursuit is refused beside one that has none. -/
theorem isolated_beside_fault : ∃ start, Engine.new { pursuitDivisor := 0 } = .ok start ∧
    let engine := ({ start with host := {} } : Engine).performAll
      [.spawn ⟨.ofNat 1⟩ { name := "bad", mode := 1 }, .spawn ⟨.ofNat 2⟩ { name := "good" }]
    engine.tick.report.processed = 1 ∧ engine.tick.report.faults.length = 1 ∧ engine.Isolated :=
  ⟨_, rfl, by decide, by decide, @actors_isolated { pursuitDivisor := 0 } _ rfl rfl _ _⟩

end
end Engine
end Rotorcraft
