import Rotorcraft.Pass

/-! # Scripted stages

A script is a stage of a host that is told by what it does: a list of actions, which run in turn until
one of them fails. It may be meant for the actors of one name only.
-/

namespace Rotorcraft

/-- An action of a scripted stage. -/
inductive HostAction where
  | fail (reason : String)
  /-- The quotient becomes the velocity. -/
  | divide (numerator denominator : Int32)
  /-- A counted buffer is copied into the path. -/
  | copy (source : List UInt8)
  | validate (params : SpawnParams)
  | forward (code : EventCode)
  /-- An event of this label is logged. -/
  | announce (label : String)
deriving DecidableEq

/-- A stage of the host's own that consists of actions. -/
structure Script where
  /-- The name of the actors it is for; without one it is for all. -/
  only : Option String := none
  actions : List HostAction := []
deriving DecidableEq

namespace Script

def act (frame : Frame) (actor : Actor) : HostAction → Pass
  | .fail reason => { actor := actor, error := some (.stage reason) }
  | .divide numerator denominator =>
    match FixedPoint.safeDivide numerator denominator with
    | .ok velocity =>
      .silent { actor with derived := { actor.derived with velocity := velocity } }
    | .error fault => { actor := actor, error := some (.division fault) }
  | .copy source =>
    match CountedBuffer.copy source actor.path with
    | .ok (copied, path) =>
      .silent { actor with path := path, pathLength := UInt64.ofNat copied }
    | .error error => { actor := actor, error := some (.copy error) }
  | .validate params =>
    match params.validate with
    | .ok _ => .silent actor
    | .error error => { actor := actor, error := some (.spawn error) }
  | .forward code => frame.forward actor [code]
  | .announce label =>
    { actor := actor
      events := [frame.event (.custom label [actor.id])
        (actor.name ++ " at " ++ toString frame.clock.tick.toNat)] }

/-- Runs actions in turn until one fails. -/
def actAll (frame : Frame) (actor : Actor) : List HostAction → Pass
  | [] => .silent actor
  | action :: rest =>
    let pass := act frame actor action
    match pass.error with
    | some _ => pass
    | none => pass.followedBy (actAll frame pass.actor rest)

def run (frame : Frame) (script : Script) (actor : Actor) : Pass :=
  if script.only.all (· == actor.name) then actAll frame actor script.actions else .silent actor

end Script
end Rotorcraft
