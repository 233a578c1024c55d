/-! # Bounded pursuit of a target

A pursued value lands on its target once the gap is at most one step. Farther away it always moves
up by one step, also when it lies above the target: it then climbs, wraps through the 16-bit range
and comes back from below.
-/

namespace Rotorcraft

/-- One pursuit step of a 16-bit value. -/
def approach (current : Int16) (target maxStep : Int) : Int16 :=
  let gap := target - current.toInt
  if gap < -maxStep ∨ maxStep < gap then Int16.ofInt (current.toInt + maxStep)
  else Int16.ofInt target

/-- Whether one pursuit step ends on the target; a target beyond 16 bits is never reached. -/
def reaches (current : Int16) (target maxStep : Int) : Bool :=
  (approach current target maxStep).toInt == target

/-- A value and the target it chases. -/
structure Pursuit where
  current : Int16 := 0
  target : Int16 := 0
deriving DecidableEq, Repr, Inhabited

namespace Pursuit

/-- Whether the value sits on its target. -/
def isSettled (pursuit : Pursuit) : Bool :=
  pursuit.current == pursuit.target

/-- The pursuit after one step of at most `maxStep`. -/
def step (pursuit : Pursuit) (maxStep : Int32) : Pursuit :=
  { pursuit with current := approach pursuit.current pursuit.target.toInt maxStep.toInt }

/-- Whether a step of at most `maxStep` ends on the target. -/
def stepReaches (pursuit : Pursuit) (maxStep : Int32) : Bool :=
  reaches pursuit.current pursuit.target.toInt maxStep.toInt

end Pursuit
end Rotorcraft
