import Rotorcraft.Text.Hex

/-! # Event codes -/

namespace Rotorcraft

/-- The code handed to the external dispatcher when a trigger fires. -/
structure EventCode where
  word : UInt16
deriving DecidableEq, Repr, Inhabited

def EventCode.text (code : EventCode) : String :=
  "0x" ++ Text.hexPadded 4 code.word.toNat

end Rotorcraft
