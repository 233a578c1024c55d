import Rotorcraft.Angle
import Rotorcraft.Identifier

/-! # Turrets

Actors refer to turrets by handle only. A turret can be removed while an actor still holds its
handle; the look-up then finds nothing.
-/

namespace Rotorcraft

/-- A turret, whose aim attracts the heading of its actor. -/
structure Turret where
  aim : Angle := {}
deriving DecidableEq, Repr, Inhabited

/-- The turrets that exist, by handle; every handle stands for one turret at most. -/
structure TurretStore where
  entries : List (TurretId × Turret) := []
deriving DecidableEq, Inhabited

namespace TurretStore

def get? (store : TurretStore) (id : TurretId) : Option Turret :=
  store.entries.lookup id

def erase (store : TurretStore) (id : TurretId) : TurretStore :=
  ⟨store.entries.filter fun entry => entry.1 != id⟩

def insert (store : TurretStore) (id : TurretId) (turret : Turret) : TurretStore :=
  ⟨(id, turret) :: (store.erase id).entries⟩

/-- Changes the turret of a handle, if it exists. -/
def modify (store : TurretStore) (id : TurretId) (change : Turret → Turret) : TurretStore :=
  ⟨store.entries.map fun entry => if entry.1 = id then (entry.1, change entry.2) else entry⟩

def size (store : TurretStore) : Nat :=
  store.entries.length

end TurretStore
end Rotorcraft
