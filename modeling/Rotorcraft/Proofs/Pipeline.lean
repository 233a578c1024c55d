import Rotorcraft.Pipeline

/-! # What a pipeline makes of an actor

The counters of the stages never influence a pass, so what becomes of an actor depends on its frame,
on the kinds of the stages and on itself. A trace names the stages that an actor reached together
with what each of them made of it; the pass of the pipeline is put together from it.
-/

namespace Rotorcraft

namespace Stage

/-- The stage with nothing counted. -/
def cleared : Stage → Stage
  | .timers _ => .timers {}
  | .motion _ => .motion {}
  | .dispatch _ => .dispatch {}
  | .transfer _ => .transfer {}
  | .scripted script => .scripted script
  | .hosted stage => .hosted stage

def isTimers : Stage → Bool
  | .timers _ => true
  | _ => false

end Stage

theorem Pass.followedBy_silent {pass : Pass} (passed : pass.error = none) :
    pass.followedBy (.silent pass.actor) = pass := by
  obtain ⟨actor, events, calls, error⟩ := pass
  obtain rfl : error = none := passed
  simp only [followedBy, silent, List.append_nil]

theorem TimerStage.run_pass (frame : Frame) (counters : TimerCounters) (actor : Actor) :
    (run frame counters actor).2 = (run frame {} actor).2 := by
  simp only [run]
  split <;> rfl

theorem MotionStage.run_pass (frame : Frame) (counters : MotionCounters) (actor : Actor) :
    (run frame counters actor).2 = (run frame {} actor).2 := by
  simp only [run]
  split
  · rfl
  · split <;> rfl

theorem TransferStage.store_pass (frame : Frame) (counters : TransferCounters) (actor : Actor)
    (key : String) (bytes : List UInt8) :
    (store frame counters actor key bytes).2 = (store frame {} actor key bytes).2 := by
  simp only [store]
  split <;> rfl

theorem TransferStage.load_pass (frame : Frame) (counters : TransferCounters) (actor : Actor)
    (key : String) : (load frame counters actor key).2 = (load frame {} actor key).2 := by
  simp only [load]
  split
  · exact store_pass frame counters actor key _
  · rfl

theorem TransferStage.run_pass (frame : Frame) (counters : TransferCounters) (actor : Actor) :
    (run frame counters actor).2 = (run frame {} actor).2 := by
  simp only [run]
  split
  · rfl
  · split
    · rfl
    · exact load_pass frame counters _ _

namespace Stage

theorem run_cleared (frame : Frame) (stage : Stage) (actor : Actor) :
    (stage.run frame actor).1.cleared = stage.cleared := by
  cases stage <;> rfl

/-- What a stage makes of an actor does not depend on what it has counted. -/
theorem cleared_run (frame : Frame) (stage : Stage) (actor : Actor) :
    (stage.cleared.run frame actor).2 = (stage.run frame actor).2 := by
  cases stage with
  | timers counters => exact (TimerStage.run_pass frame counters actor).symm
  | motion counters => exact (MotionStage.run_pass frame counters actor).symm
  | dispatch counters => rfl
  | transfer counters => exact (TransferStage.run_pass frame counters actor).symm
  | scripted script => rfl
  | hosted stage => rfl

end Stage

namespace Pipeline

theorem run_cons_error {frame : Frame} {stage : Stage} {rest : List Stage} {actor : Actor}
    (failed : (stage.run frame actor).2.error.isSome) :
    run frame (stage :: rest) actor =
      ((stage.run frame actor).1 :: rest, (stage.run frame actor).2) := by
  obtain ⟨error, failed⟩ := Option.isSome_iff_exists.mp failed
  simp only [run, failed]

theorem run_cons_ok {frame : Frame} {stage : Stage} {rest : List Stage} {actor : Actor}
    (passed : (stage.run frame actor).2.error = none) :
    run frame (stage :: rest) actor =
      ((stage.run frame actor).1 :: (run frame rest (stage.run frame actor).2.actor).1,
        (stage.run frame actor).2.followedBy
          (run frame rest (stage.run frame actor).2.actor).2) := by
  simp only [run, passed]

theorem run_cleared (frame : Frame) (stages : List Stage) (actor : Actor) :
    (run frame stages actor).1.map Stage.cleared = stages.map Stage.cleared := by
  induction stages generalizing actor with
  | nil => rfl
  | cons stage rest ih =>
    cases outcome : (stage.run frame actor).2.error with
    | some error =>
      rw [run_cons_error (by simp [outcome])]
      simp only [List.map_cons, Stage.run_cleared]
    | none =>
      rw [run_cons_ok outcome]
      simp only [List.map_cons, Stage.run_cleared, ih]

/-- What a pipeline makes of an actor does not depend on what its stages have counted. -/
theorem cleared_run (frame : Frame) (stages : List Stage) (actor : Actor) :
    (run frame (stages.map Stage.cleared) actor).2 = (run frame stages actor).2 := by
  induction stages generalizing actor with
  | nil => rfl
  | cons stage rest ih =>
    have same := Stage.cleared_run frame stage actor
    cases outcome : (stage.run frame actor).2.error with
    | some error =>
      rw [List.map_cons, run_cons_error (by simp [same, outcome]),
        run_cons_error (by simp [outcome]), same]
    | none =>
      rw [List.map_cons, run_cons_ok (by rw [same, outcome]), run_cons_ok outcome, same]
      simp only [ih]

/-- Pipelines of the same kinds of stages make the same of an actor. -/
theorem run_congr (frame : Frame) {stages others : List Stage} (actor : Actor)
    (same : stages.map Stage.cleared = others.map Stage.cleared) :
    (run frame stages actor).2 = (run frame others actor).2 := by
  rw [← cleared_run frame stages, same, cleared_run]

/-- The pass of an actor, with the event of its failure if there was one. -/
def pass (frame : Frame) (stages : List Stage) (actor : Actor) : Pass :=
  logAbort frame (run frame stages actor).2

theorem logAbort_actor (frame : Frame) (pass : Pass) : (logAbort frame pass).actor = pass.actor := by
  simp only [logAbort]
  split <;> rfl

theorem logAbort_error (frame : Frame) (pass : Pass) : (logAbort frame pass).error = pass.error := by
  simp only [logAbort]
  split <;> rfl

theorem logAbort_calls (frame : Frame) (pass : Pass) : (logAbort frame pass).calls = pass.calls := by
  simp only [logAbort]
  split <;> rfl

@[simp] theorem pass_actor (frame : Frame) (stages : List Stage) (actor : Actor) :
    (pass frame stages actor).actor = (run frame stages actor).2.actor := logAbort_actor _ _

@[simp] theorem pass_error (frame : Frame) (stages : List Stage) (actor : Actor) :
    (pass frame stages actor).error = (run frame stages actor).2.error := logAbort_error _ _

@[simp] theorem pass_calls (frame : Frame) (stages : List Stage) (actor : Actor) :
    (pass frame stages actor).calls = (run frame stages actor).2.calls := logAbort_calls _ _

theorem pass_congr (frame : Frame) {stages others : List Stage} (actor : Actor)
    (same : stages.map Stage.cleared = others.map Stage.cleared) :
    pass frame stages actor = pass frame others actor :=
  congrArg (logAbort frame) (run_congr frame actor same)

theorem runAll_cleared (stages : List Stage) (entries : List (Frame × Actor)) :
    (runAll stages entries).1.map Stage.cleared = stages.map Stage.cleared := by
  induction entries generalizing stages with
  | nil => rfl
  | cons entry rest ih =>
    obtain ⟨frame, actor⟩ := entry
    simp only [runAll, ih, run_cleared]

/-- The passes of several actors are those of each of them for itself. -/
theorem runAll_passes (stages : List Stage) (entries : List (Frame × Actor)) :
    (runAll stages entries).2 = entries.map fun entry => pass entry.1 stages entry.2 := by
  induction entries generalizing stages with
  | nil => rfl
  | cons entry rest ih =>
    obtain ⟨frame, actor⟩ := entry
    simp only [runAll, ih, List.map_cons, pass]
    congr 1
    refine List.map_congr_left fun other _ => ?_
    exact pass_congr other.1 other.2 (run_cleared frame stages actor)

/-- The stages that an actor reaches, each with what it makes of the actor. -/
def trace (frame : Frame) : List Stage → Actor → List (Stage × Pass)
  | [], _ => []
  | stage :: rest, actor =>
    let pass := (stage.run frame actor).2
    (stage, pass) :: if pass.error.isSome then [] else trace frame rest pass.actor

/-- The calls of a pass are those of the stages reached. -/
theorem run_calls (frame : Frame) (stages : List Stage) (actor : Actor) :
    (run frame stages actor).2.calls =
      (trace frame stages actor).flatMap fun entry => entry.2.calls := by
  induction stages generalizing actor with
  | nil => rfl
  | cons stage rest ih =>
    cases outcome : (stage.run frame actor).2.error with
    | some error => simp [run_cons_error, trace, outcome]
    | none => simp [run_cons_ok, trace, outcome, Pass.followedBy, ih]

end Pipeline
end Rotorcraft
