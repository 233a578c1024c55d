import Rotorcraft.Proofs.Faults
import Rotorcraft.Proofs.Passes

/-! # The journeys of a tick

In a tick every actor makes a journey through the stages: from the first one on, in order, up to the
first that fails. This holds for every pipeline, whatever its stages are. What a tick changes, reports
and logs is read off the journeys, one after the other, and a failure costs one event more.
-/

namespace Rotorcraft

/-- The passes of an actor through stages, in order, up to the first that fails, and the stages as they
are left behind. Those behind a failure are not touched. -/
inductive Walk (frame : Frame) : List Stage → Actor → List Stage → List Pass → Prop
  | arrived (actor : Actor) : Walk frame [] actor [] []
  | stopped {stage : Stage} {rest : List Stage} {actor : Actor}
      (failed : (stage.run frame actor).2.error.isSome) :
      Walk frame (stage :: rest) actor ((stage.run frame actor).1 :: rest) [(stage.run frame actor).2]
  | passed {stage : Stage} {rest left : List Stage} {actor : Actor} {passes : List Pass}
      (passed : (stage.run frame actor).2.error = none)
      (later : Walk frame rest (stage.run frame actor).2.actor left passes) :
      Walk frame (stage :: rest) actor ((stage.run frame actor).1 :: left)
        ((stage.run frame actor).2 :: passes)

/-- The tick of one actor: the frame that the stages read, the actor as it was before, and what the
stages that it reached made of it, in order. -/
structure Journey where
  frame : Frame
  actor : Actor
  passes : List Pass

namespace Journey

variable (journey : Journey)

/-- The actor as the last stage that it reached left it. -/
def final : Actor :=
  (journey.passes.getLast?.map (·.actor)).getD journey.actor

/-- Why the last stage that was reached failed, if it did. -/
def failure? : Option EngineError :=
  journey.passes.getLast?.bind (·.error)

def events : List Event :=
  journey.passes.flatMap (·.events)

def calls : List HostCall :=
  journey.passes.flatMap (·.calls)

/-- The journey taken as one pass. -/
def outcome : Pass :=
  ⟨journey.final, journey.events, journey.calls, journey.failure?⟩

/-- A stage that passes only adds to the journey through the later ones. -/
theorem outcome_cons {frame : Frame} {actor : Actor} {pass : Pass} {passes : List Pass}
    (passed : pass.error = none) : outcome ⟨frame, actor, pass :: passes⟩ =
      pass.followedBy (outcome ⟨frame, pass.actor, passes⟩) := by
  cases last : passes.getLast? with
  | none =>
    obtain rfl := List.getLast?_eq_none_iff.mp last
    simp [outcome, final, failure?, events, calls, Pass.followedBy, passed]
  | some reached =>
    simp [outcome, final, failure?, events, calls, Pass.followedBy, List.getLast?_cons, last]

end Journey

namespace Walk

variable {frame : Frame} {stages left : List Stage} {actor : Actor} {passes : List Pass}

theorem run_eq (walk : Walk frame stages actor left passes) :
    Pipeline.run frame stages actor = (left, Journey.outcome ⟨frame, actor, passes⟩) := by
  induction walk with
  | arrived actor => rfl
  | stopped failed =>
    rw [Pipeline.run_cons_error failed]
    simp [Journey.outcome, Journey.final, Journey.failure?, Journey.events, Journey.calls]
  | passed passed later ih => rw [Pipeline.run_cons_ok passed, ih, Journey.outcome_cons passed]

end Walk

namespace Journey

variable (journey : Journey)

variable {journey}

end Journey

namespace Engine

/-- A stage of the host that remembers whom it has seen lets one actor of a tick through. -/
example :
    let gate : HostStage :=
      { run frame actor := { actor, error := if frame.host.memory.isEmpty then none else some (.stage "shut") }
        run_id _ _ := rfl
        run_limited _ _ _ := rfl }
    let engine : Engine :=
      { actors := [{ id := ⟨.ofNat 1⟩, name := "scout" }, { id := ⟨.ofNat 2⟩, name := "gunship" }]
        stages := [.hosted gate] }
    (engine.tickWith fun place => { memory := List.replicate place 0 }).report.faults =
      [(⟨.ofNat 2⟩, .stage "shut")] := by
  decide

end Engine
end Rotorcraft
