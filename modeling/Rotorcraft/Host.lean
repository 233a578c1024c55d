import Rotorcraft.Actor

/-! # The host of an engine

The engine asks its host for assets and for a transform of anchor points, and tells it which codes
it forwards and which actors it has dispatched. What the host does with a call is its own affair, so
the calls are data: a tick returns the list of those it made.
-/

namespace Rotorcraft

/-- The answers of a host. -/
structure Host where
  /-- The transform applied to the anchor of a new flight. -/
  transform : Vec3 → Vec3 := id
  /-- The bytes of an asset, if it is available. -/
  asset? : String → Option (List UInt8) := fun _ => none
  /-- What the host's own stages remember when they come to an actor. -/
  memory : List UInt8 := []

/-- The answers of a host during a tick, by the place in tick order of the actor that asks: a host
with a memory may answer every actor differently. -/
abbrev HostAnswers := Nat → Host

/-- A call that the engine makes to its host. -/
inductive HostCall where
  | forward (target : ActorId) (code : EventCode) (paramCount : UInt8)
  | transform (vector : Vec3)
  /-- The actor as it stands at the end of its dispatch. -/
  | finalize (actor : Actor)
  | load (key : String)
deriving DecidableEq

def Host.summary (_host : Host) : String :=
  "Collaborators \x7b .. \x7d"

end Rotorcraft
