/-! # The status word of an actor

Three bits of the status word select the behaviour of an actor; the others belong to the host and
are carried untouched.
-/

namespace Rotorcraft

/-- The behaviour that a selector names. -/
inductive Mode where
  | init
  | pursue
  | adjustLeft
  | adjustRight
  | fallback (selector : UInt8)
deriving DecidableEq, Repr

namespace Mode

def ofSelector (selector : UInt8) : Mode :=
  if selector = 0 then .init
  else if selector = 1 then .pursue
  else if selector = 2 then .adjustLeft
  else if selector = 3 then .adjustRight
  else .fallback selector

def selector : Mode → UInt8
  | .init => 0
  | .pursue => 1
  | .adjustLeft => 2
  | .adjustRight => 3
  | .fallback selector => selector

/-- How a mode is shown. -/
def text : Mode → String
  | .init => "init"
  | .pursue => "pursue"
  | .adjustLeft => "adjust-left"
  | .adjustRight => "adjust-right"
  | .fallback selector => "fallback(" ++ toString selector.toNat ++ ")"

end Mode

/-- The status word; bits 8 to 10 hold the mode selector. -/
structure StatusWord where
  word : UInt16 := 0
deriving DecidableEq, Repr, Inhabited

namespace StatusWord

def selectorMask : UInt16 := 0x0700

/-- The mode selector, in `0 .. 7`. -/
def selector (status : StatusWord) : UInt8 :=
  ((status.word &&& selectorMask) >>> 8).toUInt8

def mode (status : StatusWord) : Mode :=
  .ofSelector status.selector

/-- Stores the low three bits of `selector`. -/
def setSelector (status : StatusWord) (selector : UInt8) : StatusWord :=
  ⟨(status.word &&& ~~~selectorMask) ||| ((selector.toUInt16 <<< 8) &&& selectorMask)⟩

end StatusWord
end Rotorcraft
