import Rotorcraft.Clock
import Rotorcraft.EngineError
import Rotorcraft.Event
import Rotorcraft.Host
import Rotorcraft.Turret

/-! # One actor's pass through a stage

A stage reads a frame, which is the same for all actors of a tick, and returns what it made of an
actor together with everything it let others know.
-/

namespace Rotorcraft

/-- What a stage may read besides the actor. -/
structure Frame where
  clock : Clock := {}
  config : Config := {}
  reference : ReferenceFrame := {}
  turrets : TurretStore := {}
  host : Host := {}

/-- What a stage made of an actor. -/
structure Pass where
  actor : Actor
  events : List Event := []
  calls : List HostCall := []
  /-- Why the stage failed, if it did. -/
  error : Option EngineError := none
deriving DecidableEq

namespace Pass

/-- What two passes in sequence amount to. -/
def followedBy (first second : Pass) : Pass :=
  ⟨second.actor, first.events ++ second.events, first.calls ++ second.calls, second.error⟩

/-- The pass without its events and calls, for one who continues from it. -/
def silent (actor : Actor) : Pass :=
  { actor := actor }

end Pass

namespace Frame

def event (frame : Frame) (kind : EventKind) (description : String) : Event :=
  ⟨frame.clock.tick, kind, description⟩

def forwardCall (frame : Frame) (id : ActorId) (code : EventCode) : HostCall :=
  .forward id code frame.config.eventParamCount

def forwardEvent (frame : Frame) (id : ActorId) (code : EventCode) : Event :=
  frame.event (.forwarded id code frame.config.eventParamCount) (id.short ++ " <- " ++ code.text)

/-- A pass that leaves an actor as it is and forwards codes to it. -/
def forward (frame : Frame) (actor : Actor) (codes : List EventCode) : Pass where
  actor := actor
  events := codes.map (frame.forwardEvent actor.id)
  calls := codes.map (frame.forwardCall actor.id)

/-- The frame as it would be with a capacity of the log. -/
def limited (frame : Frame) (capacity : UInt64) : Frame :=
  { frame with config := { frame.config with maxEvents := capacity } }

/-- The turret that the handle of an actor resolves to. -/
def turret? (frame : Frame) (actor : Actor) : Option Turret :=
  actor.turret.bind frame.turrets.get?

end Frame
end Rotorcraft
