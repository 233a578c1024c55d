import Rotorcraft.Config
import Rotorcraft.CountedBuffer
import Rotorcraft.FixedPoint
import Rotorcraft.Spawn

/-! # Engine errors -/

namespace Rotorcraft

/-- Why the engine refuses an operation, or why a stage fails. -/
inductive EngineError where
  | actorNotFound (id : ActorId)
  | division (fault : DivisionFault)
  | copy (error : CopyError)
  | spawn (error : SpawnError)
  | config (error : ConfigError)
  /-- A stage of the host's own failed. -/
  | stage (reason : String)
deriving DecidableEq

def EngineError.message : EngineError → String
  | .actorNotFound id => "entity not found in engine: " ++ id.short
  | .division fault => fault.message
  | .copy error => error.message
  | .spawn error => error.message
  | .config error => error.message
  | .stage reason => "stage error: " ++ reason

end Rotorcraft
