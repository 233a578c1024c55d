import Rotorcraft.Pass

/-! # The dispatch stage

The mode of an actor selects the values to derive. The control word tells afterwards whether the
division of the pursuit went through, and the host sees the actor once, in either case.
-/

namespace Rotorcraft

/-- What a dispatch stage has counted. -/
structure DispatchCounters where
  dispatched : Nat := 0
  faults : Nat := 0
  fallbacks : Nat := 0
deriving DecidableEq, Repr, Inhabited

/-- How a dispatch ended. -/
structure Dispatched where
  /-- The mode that was run, or the division that was refused. -/
  outcome : Except DivisionFault Mode
  actor : Actor
  calls : List HostCall

namespace DispatchStage

/-- Anchors an actor at the transformed origin and returns it to the primary path. -/
def anchor (frame : Frame) (actor : Actor) : Actor :=
  { actor.clearFlag .secondaryPath with
    derived := { actor.derived with anchor := frame.host.transform frame.reference.origin } }

/-- The offset to the primary target, modulo `2 ^ 32`. -/
def primaryOffset (frame : Frame) (actor : Actor) : Int32 :=
  frame.reference.primaryTarget.x - actor.position.x

/-- The offset to the secondary target, modulo `2 ^ 32`. -/
def secondaryOffset (frame : Frame) (actor : Actor) : Int32 :=
  frame.reference.secondaryTarget.x - actor.position.x

/-- The offset that is pursued: the primary one, unless the actor is on its secondary path or the
primary target is nearer than the threshold of its sub-mode. -/
def pursuedOffset (frame : Frame) (actor : Actor) : Int32 :=
  let primary := primaryOffset frame actor
  if !actor.hasFlag .secondaryPath ∧
      (frame.config.threshold actor.flags).toInt ≤ primary.toInt.natAbs then primary
  else secondaryOffset frame actor

/-- Derives the pursuit velocity. -/
def pursue (frame : Frame) (actor : Actor) : Except DivisionFault Actor :=
  (FixedPoint.safeDivide (pursuedOffset frame actor) frame.config.pursuitDivisor).map
    fun velocity => { actor with derived := { actor.derived with velocity := velocity } }

/-- Derives turn rate and bank from a heading difference in `0 .. 4095`. -/
def bank (actor : Actor) (delta : Int) : Actor :=
  { actor with
    derived := { actor.derived with
      turnRate := Int32.ofInt (delta / 8)
      bank := FixedPoint.roundedHalf (Int32.ofInt (delta / 4 + delta / 16)) } }

/-- How far the bearing lies ahead of the heading. -/
def leftDelta (frame : Frame) (actor : Actor) : Int :=
  wrapDelta (frame.reference.bearing.toInt - actor.orientation.yaw.toInt)

/-- How far the heading lies ahead of the bearing. -/
def rightDelta (frame : Frame) (actor : Actor) : Int :=
  wrapDelta (actor.orientation.yaw.toInt - frame.reference.bearing.toInt)

/-- The actor that the branch of its mode makes. -/
def branch (frame : Frame) (actor : Actor) : Except DivisionFault Actor :=
  match actor.mode with
  | .init => .ok (anchor frame actor)
  | .pursue => pursue frame actor
  | .adjustLeft => .ok (bank actor (leftDelta frame actor))
  | .adjustRight => .ok (bank actor (rightDelta frame actor))
  | .fallback _ => .ok (actor.setFlag .transitioned)

/-- The calls that the branch of a mode makes. -/
def branchCalls (frame : Frame) (actor : Actor) : List HostCall :=
  match actor.mode with
  | .init => [.transform frame.reference.origin]
  | _ => []

/-- Runs the branch of the actor's mode and lets the host see the result. -/
def dispatch (frame : Frame) (actor : Actor) : Dispatched :=
  match branch frame actor with
  | .ok derived =>
    let finished := derived.setFlag .divisionSafe
    ⟨.ok actor.mode, finished, branchCalls frame actor ++ [.finalize finished]⟩
  | .error fault =>
    let finished := actor.clearFlag .divisionSafe
    ⟨.error fault, finished, branchCalls frame actor ++ [.finalize finished]⟩

def count (counters : DispatchCounters) : Except DivisionFault Mode → DispatchCounters
  | .ok (.fallback _) =>
    { counters with
      dispatched := counters.dispatched + 1
      fallbacks := counters.fallbacks + 1 }
  | .ok _ => { counters with dispatched := counters.dispatched + 1 }
  | .error _ => { counters with faults := counters.faults + 1 }

def run (frame : Frame) (counters : DispatchCounters) (actor : Actor) : DispatchCounters × Pass :=
  let dispatched := dispatch frame actor
  let error := match dispatched.outcome with
    | .ok _ => none
    | .error fault => some (.division fault)
  (count counters dispatched.outcome,
    { actor := dispatched.actor, calls := dispatched.calls, error := error })

end DispatchStage
end Rotorcraft
