import Rotorcraft.Proofs.Stages

/-! # The standard pipeline

The pass of an actor through the four standard stages, put together from theirs. An actor whose
division is refused stops at the end of its dispatch; every other one goes through all stages.
-/

namespace Rotorcraft

namespace Pipeline

/-- The stages are those of the standard pipeline, whatever they have counted. -/
def IsStandard (stages : List Stage) : Prop :=
  stages.map Stage.cleared = Stage.standard

theorem isStandard_standard : IsStandard Stage.standard := rfl

/-- The counters of a standard pipeline do not matter to an actor. -/
theorem IsStandard.run_eq {stages : List Stage} (standard : IsStandard stages) (frame : Frame)
    (actor : Actor) : (run frame stages actor).2 = (run frame Stage.standard actor).2 :=
  run_congr frame actor (show _ = Stage.standard.map Stage.cleared from standard)

theorem IsStandard.pass_eq {stages : List Stage} (standard : IsStandard stages) (frame : Frame)
    (actor : Actor) : pass frame stages actor = pass frame Stage.standard actor :=
  congrArg (logAbort frame) (standard.run_eq frame actor)

/-- What every stage keeps of an actor, a pipeline keeps. -/
theorem run_induction {P : Actor → Prop} {frame : Frame} {stages : List Stage}
    (step : ∀ stage ∈ stages, ∀ actor, P actor → P (stage.run frame actor).2.actor) {actor : Actor}
    (initial : P actor) : P (run frame stages actor).2.actor := by
  induction stages generalizing actor with
  | nil => exact initial
  | cons stage rest ih =>
    have next := step stage (List.mem_cons_self ..) actor initial
    cases outcome : (stage.run frame actor).2.error with
    | some error =>
      rw [run_cons_error (by simp [outcome])]
      exact next
    | none =>
      rw [run_cons_ok outcome]
      exact ih (fun other member => step other (List.mem_cons_of_mem _ member)) next

/-- What each of the four standard stages keeps of an actor, the standard pipeline keeps. -/
theorem run_standard_induction {P : Actor → Prop} {frame : Frame} {stages : List Stage}
    (standard : IsStandard stages)
    (timers : ∀ actor, P actor → P (TimerStage.advance actor))
    (motion : ∀ counters actor, P actor → P (MotionStage.run frame counters actor).2.actor)
    (dispatch : ∀ counters actor, P actor → P (DispatchStage.run frame counters actor).2.actor)
    (transfer : ∀ counters actor, P actor → P (TransferStage.run frame counters actor).2.actor)
    {actor : Actor} (initial : P actor) : P (run frame stages actor).2.actor := by
  rw [standard.run_eq]
  refine run_induction (fun stage member => ?_) initial
  simp only [Stage.standard, List.mem_cons, List.not_mem_nil, or_false] at member
  rcases member with rfl | rfl | rfl | rfl
  · simpa only [Stage.run, TimerStage.run_actor] using timers
  · exact motion {}
  · exact dispatch {}
  · exact transfer {}

/-- A tick of the standard pipeline leaves alone what no stage changes. -/
theorem run_persists {frame : Frame} {stages : List Stage} (standard : IsStandard stages)
    (actor : Actor) : actor.Persists (run frame stages actor).2.actor :=
  run_standard_induction standard
    (fun next kept => kept.trans (TimerStage.advance_persists next))
    (fun counters next kept => kept.trans (MotionStage.run_persists frame counters next))
    (fun counters next kept => kept.trans (DispatchStage.run_persists frame counters next))
    (fun counters next kept => kept.trans (TransferStage.run_persists frame counters next))
    (.refl actor)

end Pipeline

namespace Actor

/-- The actor as the timer stage and then the motion stage leave it. -/
def moved (frame : Frame) (actor : Actor) : Actor :=
  (MotionStage.run frame {} (TimerStage.run frame {} actor).2.actor).2.actor

/-- The actor at the end of its dispatch. -/
def dispatched (frame : Frame) (actor : Actor) : Actor :=
  (DispatchStage.run frame {} (actor.moved frame)).2.actor

/-- What the dispatch stage and the transfer stage make of an actor. -/
def finished (frame : Frame) (actor : Actor) : Actor :=
  match DispatchStage.branch frame actor with
  | .ok next => (TransferStage.run frame {} (next.setFlag .divisionSafe)).2.actor
  | .error _ => actor.clearFlag .divisionSafe

/-- What a tick of the standard pipeline makes of an actor. -/
def ticked (frame : Frame) (actor : Actor) : Actor :=
  (actor.moved frame).finished frame

end Actor

namespace Pipeline

variable {frame : Frame} {stages : List Stage} {actor : Actor}

/-- The pass of an actor through the standard pipeline, stage by stage. -/
theorem run_standard (standard : IsStandard stages) : (run frame stages actor).2 =
    (TimerStage.run frame {} actor).2.followedBy
      ((MotionStage.run frame {} (TimerStage.run frame {} actor).2.actor).2.followedBy
        (if (DispatchStage.run frame {} (actor.moved frame)).2.error.isSome then
          (DispatchStage.run frame {} (actor.moved frame)).2
        else (DispatchStage.run frame {} (actor.moved frame)).2.followedBy
          (TransferStage.run frame {} (actor.dispatched frame)).2)) := by
  rw [standard.run_eq, Stage.standard]
  simp only [run, Stage.run, TimerStage.run_error, MotionStage.run_error, TransferStage.run_error]
  cases outcome : (DispatchStage.run frame {} (actor.moved frame)).2.error with
  | some error =>
    simp only [Actor.moved] at outcome
    simp only [Actor.moved, outcome, Option.isSome_some, if_true]
  | none =>
    simp only [Actor.moved] at outcome
    simp only [Actor.moved, Actor.dispatched, outcome, Option.isSome_none, Bool.false_eq_true, if_false,
      Pass.followedBy_silent (TransferStage.run_error ..)]

theorem run_standard_actor (standard : IsStandard stages) :
    (run frame stages actor).2.actor = actor.ticked frame := by
  rw [run_standard standard, Actor.ticked, Actor.finished]
  simp only [Pass.followedBy, Actor.dispatched]
  cases outcome : DispatchStage.branch frame (actor.moved frame) with
  | error fault =>
    obtain ⟨stopped, error⟩ := DispatchStage.run_fault frame {} outcome
    simp only [error, stopped, Option.isSome_some, if_true]
  | ok next =>
    obtain ⟨derived, error⟩ := DispatchStage.run_ok frame {} outcome
    simp only [error, derived, Option.isSome_none, Bool.false_eq_true, if_false]

end Pipeline
end Rotorcraft
