/-! # Integer vectors -/

namespace Rotorcraft

/-- A point or displacement with 32-bit coordinates. -/
structure Vec3 where
  x : Int32 := 0
  y : Int32 := 0
  z : Int32 := 0
deriving DecidableEq, Repr, Inhabited

/-- Coordinatewise sum, modulo `2 ^ 32`. -/
def Vec3.add (a b : Vec3) : Vec3 :=
  ⟨a.x + b.x, a.y + b.y, a.z + b.z⟩

end Rotorcraft
