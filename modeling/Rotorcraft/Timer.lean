import Rotorcraft.EventCode

/-! # Countdown timers

A countdown fires on its step from one to zero and then stays idle until it is armed again. Every
actor carries a bank of four, each bound to the event code it announces.
-/

namespace Rotorcraft

/-- A 16-bit countdown; values below zero occur only in hand-written records. -/
structure Countdown where
  remaining : Int16 := 0
deriving DecidableEq, Repr, Inhabited

namespace Countdown

/-- A countdown with `ticks` left, none if negative. -/
def armed (ticks : Int16) : Countdown :=
  ⟨if ticks < 0 then 0 else ticks⟩

def isIdle (countdown : Countdown) : Bool :=
  decide (countdown.remaining ≤ 0)

/-- Counts down by one and tells whether this step moved it from one to zero. -/
def tick (countdown : Countdown) : Countdown × Bool :=
  if countdown.remaining ≤ 0 then (⟨0⟩, false)
  else
    let remaining := countdown.remaining - 1
    (⟨remaining⟩, remaining == 0)

end Countdown

/-- Whether `clock` is a multiple of `period`; a period of zero has no multiples. -/
def isPeriodic (period clock : UInt64) : Bool :=
  period != 0 && clock % period == 0

/-- The four countdowns of an actor. -/
inductive TimerName where
  | fire
  | sweep
  | hover
  | alert
deriving DecidableEq, Repr, Inhabited

namespace TimerName

/-- The names in bank order. -/
def all : List TimerName :=
  [.fire, .sweep, .hover, .alert]

def text : TimerName → String
  | .fire => "fire"
  | .sweep => "sweep"
  | .hover => "hover"
  | .alert => "alert"

def ofText? (text : String) : Option TimerName :=
  all.find? fun name => name.text == text

/-- The code announced unless another one is bound at spawn. -/
def defaultEvent : TimerName → EventCode
  | .fire => ⟨0x0101⟩
  | .sweep => ⟨0x0102⟩
  | .hover => ⟨0x0103⟩
  | .alert => ⟨0x0104⟩

end TimerName

/-- A countdown and the code it announces. -/
structure TimerSlot where
  timer : Countdown
  event : EventCode
deriving DecidableEq, Repr, Inhabited

/-- The idle slot of a name, bound to the default code. -/
def TimerName.idleSlot (name : TimerName) : TimerSlot :=
  ⟨{}, name.defaultEvent⟩

/-- The four slots of an actor. -/
structure TimerBank where
  fire : TimerSlot := TimerName.fire.idleSlot
  sweep : TimerSlot := TimerName.sweep.idleSlot
  hover : TimerSlot := TimerName.hover.idleSlot
  alert : TimerSlot := TimerName.alert.idleSlot
deriving DecidableEq, Repr, Inhabited

namespace TimerBank

def slot (bank : TimerBank) : TimerName → TimerSlot
  | .fire => bank.fire
  | .sweep => bank.sweep
  | .hover => bank.hover
  | .alert => bank.alert

def setSlot (bank : TimerBank) (name : TimerName) (slot : TimerSlot) : TimerBank :=
  match name with
  | .fire => { bank with fire := slot }
  | .sweep => { bank with sweep := slot }
  | .hover => { bank with hover := slot }
  | .alert => { bank with alert := slot }

def slots (bank : TimerBank) : List TimerSlot :=
  TimerName.all.map bank.slot

def remaining (bank : TimerBank) (name : TimerName) : Int16 :=
  (bank.slot name).timer.remaining

def arm (bank : TimerBank) (name : TimerName) (ticks : Int16) : TimerBank :=
  bank.setSlot name { bank.slot name with timer := .armed ticks }

def bind (bank : TimerBank) (name : TimerName) (event : EventCode) : TimerBank :=
  bank.setSlot name { bank.slot name with event := event }

/-- Counts one slot down and tells whether it fired. -/
def tick (bank : TimerBank) (name : TimerName) : TimerBank × Bool :=
  let (timer, fired) := (bank.slot name).timer.tick
  (bank.setSlot name { bank.slot name with timer := timer }, fired)

/-- Counts every slot down. -/
def advance (bank : TimerBank) : TimerBank :=
  let advanceSlot (slot : TimerSlot) : TimerSlot := { slot with timer := slot.timer.tick.1 }
  ⟨advanceSlot bank.fire, advanceSlot bank.sweep, advanceSlot bank.hover, advanceSlot bank.alert⟩

/-- The slots that fire on the next `advance`, in bank order, with their codes. -/
def firing (bank : TimerBank) : List (TimerName × EventCode) :=
  TimerName.all.filterMap fun name =>
    if (bank.slot name).timer.tick.2 then some (name, (bank.slot name).event) else none

/-- Counts every slot down and reports the ones that fired. -/
def tickAll (bank : TimerBank) : TimerBank × List (TimerName × EventCode) :=
  (bank.advance, bank.firing)

/-- Whether every countdown has run out. -/
def allIdle (bank : TimerBank) : Bool :=
  bank.slots.all fun slot => slot.timer.isIdle

end TimerBank
end Rotorcraft
