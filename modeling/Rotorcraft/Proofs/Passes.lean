import Rotorcraft.Proofs.Standard

/-! # What a pass is about

Whatever the stages of a pipeline are, and wherever it ends, an actor keeps its identifier on its way
through. Every event that is logged on the way, if not by a stage of the host, is of the current tick and
about this actor alone, and none says that an actor came or went: that is left to the engine.
-/

namespace Rotorcraft

namespace EventKind

def spawned? : EventKind → Option ActorId
  | .spawned actor => some actor
  | _ => none

def despawned? : EventKind → Option ActorId
  | .despawned actor => some actor
  | _ => none

end EventKind

/-- Whether a stage is the host's own, whose code the engine does not know. -/
def Stage.isHosted : Stage → Bool
  | .hosted _ => true
  | _ => false

theorem Stage.isHosted_cleared (stage : Stage) : stage.cleared.isHosted = stage.isHosted := by
  cases stage <;> rfl

/-- No stage of a standard pipeline is the host's own. -/
theorem Pipeline.IsStandard.isHosted {stages : List Stage} (standard : IsStandard stages) :
    ∀ stage ∈ stages, stage.isHosted = false := by
  intro stage member
  have listed : stage.cleared ∈ Stage.standard := standard ▸ List.mem_map_of_mem member
  rw [← stage.isHosted_cleared]
  simp only [Stage.standard, List.mem_cons, List.not_mem_nil, or_false] at listed
  rcases listed with same | same | same | same <;> rw [same] <;> rfl

/-- An event of the current tick that is about one actor and says nothing of its coming or going. -/
structure Event.Concerns (event : Event) (frame : Frame) (subject : ActorId) : Prop where
  tick : event.tick = frame.clock.tick
  actors : event.kind.actors = [subject]
  spawned : event.kind.spawned? = none
  despawned : event.kind.despawned? = none

/-- A pass of the actor of an identifier, whose events are about this actor. -/
structure Pass.Concerns (pass : Pass) (frame : Frame) (subject : ActorId) : Prop where
  id : pass.actor.id = subject
  events : ∀ event ∈ pass.events, event.Concerns frame subject

namespace Pass.Concerns

variable {frame : Frame} {subject : ActorId} {first second : Pass}

theorem of_events_eq_nil (same : first.actor.id = subject) (quiet : first.events = []) :
    first.Concerns frame subject where
  id := same
  events event member := by
    rw [quiet] at member
    cases member

theorem of_event {event : Event} (same : first.actor.id = subject) (only : first.events = [event])
    (about : event.Concerns frame subject) : first.Concerns frame subject where
  id := same
  events other member := by
    rw [only] at member
    obtain rfl := List.mem_singleton.mp member
    exact about

theorem followedBy (left : first.Concerns frame subject)
    (right : second.Concerns frame subject) : (first.followedBy second).Concerns frame subject where
  id := right.id
  events event member := by
    obtain early | late := List.mem_append.mp member
    · exact left.events event early
    · exact right.events event late

end Pass.Concerns

theorem Frame.forward_concerns (frame : Frame) (actor : Actor) (codes : List EventCode) :
    (frame.forward actor codes).Concerns frame actor.id where
  id := rfl
  events event member := by
    obtain ⟨code, _, rfl⟩ := List.mem_map.mp member
    exact ⟨rfl, rfl, rfl, rfl⟩

section
variable (frame : Frame) (actor : Actor)

theorem TimerStage.run_concerns (counters : TimerCounters) :
    (run frame counters actor).2.Concerns frame actor.id := by
  have id : (advance actor).id = actor.id := (advance_persists actor).id
  rw [← id]
  simp only [run]
  split <;> exact frame.forward_concerns _ _

theorem MotionStage.run_concerns (counters : MotionCounters) :
    (run frame counters actor).2.Concerns frame actor.id := by
  simp only [run]
  split
  · exact .of_events_eq_nil rfl rfl
  · split <;> exact frame.forward_concerns _ _

theorem DispatchStage.run_concerns (counters : DispatchCounters) :
    (run frame counters actor).2.Concerns frame actor.id :=
  .of_events_eq_nil (run_persists frame counters actor).id rfl

theorem TransferStage.store_concerns (counters : TransferCounters) (key : String) (bytes : List UInt8) :
    (store frame counters actor key bytes).2.Concerns frame actor.id := by
  simp only [store]
  split
  · exact .of_events_eq_nil rfl rfl
  · exact .of_event rfl rfl ⟨rfl, rfl, rfl, rfl⟩

theorem TransferStage.load_concerns (counters : TransferCounters) (key : String) :
    (load frame counters actor key).2.Concerns frame actor.id := by
  simp only [load]
  split
  · exact store_concerns frame actor counters key _
  · exact .of_event rfl rfl ⟨rfl, rfl, rfl, rfl⟩

theorem TransferStage.run_concerns (counters : TransferCounters) :
    (run frame counters actor).2.Concerns frame actor.id := by
  simp only [run]
  split
  · exact .of_events_eq_nil rfl rfl
  · split
    · exact .of_events_eq_nil rfl rfl
    · exact load_concerns frame (actor.clearFlag .reloadPath) counters _

theorem Script.act_concerns (action : HostAction) :
    (act frame actor action).Concerns frame actor.id := by
  cases action with
  | fail reason => exact .of_events_eq_nil rfl rfl
  | divide numerator denominator =>
    simp only [act]
    split <;> exact .of_events_eq_nil rfl rfl
  | copy source =>
    simp only [act]
    split <;> exact .of_events_eq_nil rfl rfl
  | validate params =>
    simp only [act]
    split <;> exact .of_events_eq_nil rfl rfl
  | forward code => exact frame.forward_concerns actor [code]
  | announce label => exact .of_event rfl rfl ⟨rfl, rfl, rfl, rfl⟩

theorem Script.actAll_concerns (actions : List HostAction) :
    (actAll frame actor actions).Concerns frame actor.id := by
  induction actions generalizing actor with
  | nil => exact .of_events_eq_nil rfl rfl
  | cons action rest ih =>
    have first := act_concerns frame actor action
    simp only [actAll]
    split
    · exact first
    · exact first.followedBy (first.id ▸ ih _)

theorem Script.run_concerns (script : Script) : (script.run frame actor).Concerns frame actor.id := by
  simp only [run]
  split
  · exact actAll_concerns frame actor _
  · exact .of_events_eq_nil rfl rfl

/-- The stages of the host may log what they like; all others keep to the actor. -/
theorem Stage.run_concerns {stage : Stage} (own : stage.isHosted = false) :
    (stage.run frame actor).2.Concerns frame actor.id := by
  cases stage with
  | timers counters => exact TimerStage.run_concerns frame actor counters
  | motion counters => exact MotionStage.run_concerns frame actor counters
  | dispatch counters => exact DispatchStage.run_concerns frame actor counters
  | transfer counters => exact TransferStage.run_concerns frame actor counters
  | scripted script => exact script.run_concerns frame actor
  | hosted stage => exact absurd own Bool.noConfusion

theorem Stage.run_id (stage : Stage) : (stage.run frame actor).2.actor.id = actor.id := by
  cases stage with
  | hosted stage => exact stage.run_id frame actor
  | _ => exact (run_concerns frame actor rfl).id

theorem Pipeline.run_id (stages : List Stage) : (run frame stages actor).2.actor.id = actor.id := by
  apply run_induction (P := fun later => later.id = actor.id)
  · intro stage _ later same
    exact (stage.run_id frame later).trans same
  · rfl

theorem Pipeline.run_concerns {stages : List Stage} (own : ∀ stage ∈ stages, stage.isHosted = false) :
    (run frame stages actor).2.Concerns frame actor.id := by
  induction stages generalizing actor with
  | nil => exact .of_events_eq_nil rfl rfl
  | cons stage rest ih =>
    obtain ⟨ownFirst, ownRest⟩ := List.forall_mem_cons.mp own
    have first := Stage.run_concerns frame actor ownFirst
    cases outcome : (stage.run frame actor).2.error with
    | some error =>
      rw [run_cons_error (by simp [outcome])]
      exact first
    | none =>
      rw [run_cons_ok outcome]
      exact first.followedBy (first.id ▸ ih _ ownRest)

theorem Pipeline.abortEvent_concerns (error : EngineError) :
    (abortEvent frame actor error).Concerns frame actor.id := by
  cases error <;> exact ⟨rfl, rfl, rfl, rfl⟩

theorem Pipeline.pass_concerns {stages : List Stage} (own : ∀ stage ∈ stages, stage.isHosted = false) :
    (pass frame stages actor).Concerns frame actor.id := by
  have whole := run_concerns frame actor own
  simp only [pass, logAbort]
  split
  · next error _ =>
    refine ⟨whole.id, fun event member => ?_⟩
    rcases List.mem_append.mp member with early | last
    · exact whole.events event early
    · obtain rfl := List.mem_singleton.mp last
      exact whole.id ▸ abortEvent_concerns frame _ error
  · exact whole

end
end Rotorcraft
