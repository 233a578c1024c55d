import Rotorcraft.Timer

/-! # The frame clock -/

namespace Rotorcraft

/-- The number of the current tick; only the engine advances it. -/
structure Clock where
  tick : UInt64 := 0
deriving DecidableEq, Repr, Inhabited

namespace Clock

def advance (clock : Clock) : Clock :=
  ⟨clock.tick + 1⟩

/-- Whether the current tick is a multiple of `period`. -/
def isPeriodic (clock : Clock) (period : UInt64) : Bool :=
  Rotorcraft.isPeriodic period clock.tick

end Clock
end Rotorcraft
