import Rotorcraft.Pass

/-! # The motion stage

The orientation turns by its spin. While attraction is active, the altitude pursues its target, and
the heading pursues the aim of the actor's turret if there is one.
-/

namespace Rotorcraft

/-- What a motion stage has counted. -/
structure MotionCounters where
  skippedAims : Nat := 0
deriving DecidableEq, Repr, Inhabited

namespace MotionStage

/-- The code forwarded on the tick on which an altitude first settles on its target. -/
def altitudeReached : EventCode := ⟨0x0201⟩

def turn (actor : Actor) : Actor :=
  { actor with orientation := actor.orientation.accumulate actor.spin }

/-- Takes the altitude one step toward its target. -/
def climb (frame : Frame) (actor : Actor) : Actor :=
  { actor with altitude := actor.altitude.step frame.config.attractionStep }

/-- Takes the heading one step toward the aim of a turret. -/
def aim (frame : Frame) (turret : Turret) (actor : Actor) : Actor :=
  { actor with
    orientation := { actor.orientation with
      yaw := actor.orientation.yaw.approach turret.aim frame.config.aimStep } }

/-- The code to forward if this step has brought the altitude onto its target. -/
def announcement (frame : Frame) (actor : Actor) : List EventCode :=
  if (climb frame actor).altitude.isSettled && !actor.altitude.isSettled then [altitudeReached]
  else []

def run (frame : Frame) (counters : MotionCounters) (actor : Actor) : MotionCounters × Pass :=
  let turned := turn actor
  if !turned.hasFlag .attractionActive then (counters, .silent turned)
  else
    let climbed := climb frame turned
    let codes := announcement frame turned
    match frame.turret? climbed with
    | some turret => (counters, frame.forward (aim frame turret climbed) codes)
    | none => (⟨counters.skippedAims + 1⟩, frame.forward climbed codes)

end MotionStage
end Rotorcraft
