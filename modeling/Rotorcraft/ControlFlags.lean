/-! # The control word of an actor

Single bits gate the optional work of a tick, and a two-bit field holds the sub-mode. No
combination of bits is invalid, and unknown bits are kept.
-/

namespace Rotorcraft

/-- The control word. -/
structure ControlFlags where
  bits : UInt16 := 0
deriving DecidableEq, Repr, Inhabited

namespace ControlFlags

/-- The altitude and the heading pursue their targets. -/
def attractionActive : ControlFlags := ⟨1⟩

/-- Pursuit uses the secondary target. -/
def secondaryPath : ControlFlags := ⟨2⟩

def subModeField : ControlFlags := ⟨12⟩

/-- A timer fired and its code is still to be acknowledged. -/
def eventLatch : ControlFlags := ⟨16⟩

/-- The last dispatch ended without a division fault. -/
def divisionSafe : ControlFlags := ⟨32⟩

/-- The dispatcher met a mode it does not know. -/
def transitioned : ControlFlags := ⟨64⟩

/-- The path is to be loaded from its asset. -/
def reloadPath : ControlFlags := ⟨128⟩

/-- Every named flag, in bit order. -/
def named : List (String × ControlFlags) :=
  [("ATTRACTION_ACTIVE", attractionActive), ("SECONDARY_PATH", secondaryPath),
    ("SUB_MODE", subModeField), ("EVENT_LATCH", eventLatch), ("DIVISION_SAFE", divisionSafe),
    ("TRANSITIONED", transitioned), ("RELOAD_PATH", reloadPath)]

def insert (flags mask : ControlFlags) : ControlFlags :=
  ⟨flags.bits ||| mask.bits⟩

def remove (flags mask : ControlFlags) : ControlFlags :=
  ⟨flags.bits &&& ~~~mask.bits⟩

/-- Whether some bit of `mask` is set. -/
def intersects (flags mask : ControlFlags) : Bool :=
  flags.bits &&& mask.bits != 0

/-- Whether every bit of `mask` is set. -/
def contains (flags mask : ControlFlags) : Bool :=
  flags.bits &&& mask.bits == mask.bits

/-- The named flags that are wholly set, in bit order. -/
def present (flags : ControlFlags) : List (String × ControlFlags) :=
  named.filter fun entry => flags.contains entry.2

/-- The bits that no wholly set named flag accounts for. -/
def unnamed (flags : ControlFlags) : ControlFlags :=
  flags.present.foldl (fun rest entry => rest.remove entry.2) flags

/-- The sub-mode, in `0 .. 3`. -/
def subMode (flags : ControlFlags) : UInt8 :=
  ((flags.bits &&& subModeField.bits) >>> 2).toUInt8

/-- Stores the low two bits of `value` as the sub-mode. -/
def setSubMode (flags : ControlFlags) (value : UInt8) : ControlFlags :=
  (flags.remove subModeField).insert ⟨(value.toUInt16 <<< 2) &&& subModeField.bits⟩

end ControlFlags
end Rotorcraft
