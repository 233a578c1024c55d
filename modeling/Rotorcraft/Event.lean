import Rotorcraft.EventCode
import Rotorcraft.FixedPoint
import Rotorcraft.Identifier

/-! # Engine events -/

namespace Rotorcraft

/-- What happened during a run. -/
inductive EventKind where
  | spawned (actor : ActorId)
  | despawned (actor : ActorId)
  /-- A code was handed to the external dispatcher. -/
  | forwarded (actor : ActorId) (code : EventCode) (paramCount : UInt8)
  /-- A refused division ended the tick of an actor. -/
  | divisionFault (actor : ActorId) (fault : DivisionFault)
  /-- An asset could not be loaded. -/
  | assetUnavailable (actor : ActorId) (key : String)
  /-- An asset was loaded, but did not fit the path. -/
  | copyFailed (actor : ActorId) (key : String)
  /-- An event of the host's own. -/
  | custom (label : String) (actors : List ActorId)
deriving DecidableEq

namespace EventKind

def actors : EventKind → List ActorId
  | .spawned actor => [actor]
  | .despawned actor => [actor]
  | .forwarded actor _ _ => [actor]
  | .divisionFault actor _ => [actor]
  | .assetUnavailable actor _ => [actor]
  | .copyFailed actor _ => [actor]
  | .custom _ actors => actors

def involves (kind : EventKind) (actor : ActorId) : Bool :=
  kind.actors.contains actor

/-- Whether an event reports a path that could not be loaded. -/
def isFailedLoad : EventKind → Bool
  | .assetUnavailable _ _ => true
  | .copyFailed _ _ => true
  | _ => false

/-- The code that was forwarded to an actor. -/
def forwardedTo? (actor : ActorId) : EventKind → Option EventCode
  | .forwarded target code _ => if target = actor then some code else none
  | _ => none

end EventKind

/-- An event, the tick at which it happened, and its description. -/
structure Event where
  tick : UInt64
  kind : EventKind
  description : String
deriving DecidableEq

end Rotorcraft
