import Rotorcraft.Pass

/-! # Stages of the host

A host can add stages of its own to a pipeline. What such a stage does to an actor, what it logs and
whether it fails is up to the host; what it remembers of other actors and other ticks it reads from the
memory of the host, which answers every actor of every tick as it likes.
-/

namespace Rotorcraft

structure HostStage where
  name : String := "host"
  /-- What the stage makes of an actor. -/
  run : Frame → Actor → Pass
  /-- The stage gives no actor another identifier. -/
  run_id : ∀ frame actor, (run frame actor).actor.id = actor.id
  /-- The stage does not ask how much the log holds. -/
  run_limited : ∀ (frame : Frame) (capacity : UInt64) (actor : Actor),
    run (frame.limited capacity) actor = run frame actor

end Rotorcraft
