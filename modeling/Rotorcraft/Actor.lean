import Rotorcraft.Angle
import Rotorcraft.ControlFlags
import Rotorcraft.Identifier
import Rotorcraft.Status
import Rotorcraft.Timer
import Rotorcraft.Vec3

/-! # Actor records -/

namespace Rotorcraft

/-- The bytes reserved for the path of a new actor. -/
def pathCapacity : Nat := 64

/-- The values that the dispatcher computes. -/
structure Derived where
  anchor : Vec3 := {}
  velocity : Int32 := 0
  turnRate : Int32 := 0
  bank : Int32 := 0
deriving DecidableEq, Repr, Inhabited

/-- The state of one simulated actor. -/
structure Actor where
  id : ActorId
  name : String
  position : Vec3 := {}
  orientation : Orientation := {}
  spin : Spin := {}
  flags : ControlFlags := {}
  status : StatusWord := {}
  timers : TimerBank := {}
  altitude : Pursuit := {}
  /-- The handle of its turret, which may be dead. -/
  turret : Option TurretId := none
  /-- The code fired last, until it is acknowledged. -/
  pendingEvent : Option EventCode := none
  derived : Derived := {}
  /-- The key of the asset that the path is loaded from. -/
  pathAsset : Option String := none
  path : List UInt8 := List.replicate pathCapacity 0
  /-- How many bytes at the front of `path` are valid. -/
  pathLength : UInt64 := 0
deriving DecidableEq, Inhabited

namespace Actor

def mode (actor : Actor) : Mode :=
  actor.status.mode

def setFlag (actor : Actor) (mask : ControlFlags) : Actor :=
  { actor with flags := actor.flags.insert mask }

def clearFlag (actor : Actor) (mask : ControlFlags) : Actor :=
  { actor with flags := actor.flags.remove mask }

/-- Whether some bit of `mask` is set in the control word. -/
def hasFlag (actor : Actor) (mask : ControlFlags) : Bool :=
  actor.flags.intersects mask

def setMode (actor : Actor) (mode : Mode) : Actor :=
  { actor with status := actor.status.setSelector mode.selector }

/-- The valid part of the path. -/
def pathBytes (actor : Actor) : List UInt8 :=
  actor.path.take actor.pathLength.toNat

/-- Drops the pending code together with its latch. -/
def acknowledge (actor : Actor) : Actor :=
  { actor.clearFlag .eventLatch with pendingEvent := none }

end Actor
end Rotorcraft
