import Rotorcraft.Pursuit

/-! # Angles in 4096ths of a turn

An angle is a residue modulo 4096. Rotation is addition of residues; pursuit, in contrast, compares
the representatives below 4096 and so takes the long way round when the target lies below.
-/

namespace Rotorcraft

/-- A number of 4096ths, less the full turns in it. -/
def turnUnits (number : Nat) : Fin 4096 :=
  Fin.ofNat 4096 number

/-- A direction in 4096ths of a full turn. -/
structure Angle where
  units : Fin 4096 := turnUnits 0
deriving DecidableEq, Repr, Inhabited

namespace Angle

/-- The direction reached from zero by `units` 4096ths of a turn. -/
def ofInt (units : Int) : Angle :=
  ⟨turnUnits (units % 4096).toNat⟩

/-- The representative in `0 .. 4095`. -/
def toInt (angle : Angle) : Int :=
  angle.units.val

/-- The direction that the low 12 bits of a word give. -/
def ofWord (word : UInt16) : Angle :=
  ofInt word.toNat

/-- The word that holds the representative. -/
def toWord (angle : Angle) : UInt16 :=
  UInt16.ofNat angle.units.val

def rotate (angle : Angle) (delta : Int16) : Angle :=
  ofInt (angle.toInt + delta.toInt)

/-- One pursuit step of the representative toward that of `target`. -/
def approach (angle target : Angle) (maxStep : Int32) : Angle :=
  ofInt (Rotorcraft.approach (Int16.ofInt angle.toInt) target.toInt maxStep.toInt).toInt

end Angle

/-- The difference of two representatives, brought into `0 .. 4095` by one turn if negative. -/
def wrapDelta (delta : Int) : Int :=
  if delta < 0 then delta + 4096 else delta

/-- What each tick adds to an orientation. -/
structure Spin where
  yaw : Int16 := 0
  roll : Int16 := 0
deriving DecidableEq, Repr, Inhabited

/-- The heading and the rotor roll of an actor. -/
structure Orientation where
  yaw : Angle := {}
  roll : Angle := {}
deriving DecidableEq, Repr, Inhabited

def Orientation.accumulate (orientation : Orientation) (spin : Spin) : Orientation :=
  ⟨orientation.yaw.rotate spin.yaw, orientation.roll.rotate spin.roll⟩

end Rotorcraft
