import Rotorcraft.Pass

/-! # The timer stage

Every countdown advances, and the codes of those that fire are forwarded. The code that fired last
is latched on the actor; while the latch is set and nothing fires, it is forwarded again on periodic
ticks.
-/

namespace Rotorcraft

/-- What a timer stage has counted. -/
structure TimerCounters where
  fired : Nat := 0
  rebroadcasts : Nat := 0
deriving DecidableEq, Repr, Inhabited

namespace TimerStage

/-- Remembers a code and sets the latch. -/
def latch (actor : Actor) (code : EventCode) : Actor :=
  { actor.setFlag .eventLatch with pendingEvent := some code }

/-- The actor with its timers advanced and the fired codes latched in turn. -/
def advance (actor : Actor) : Actor :=
  let (timers, fired) := actor.timers.tickAll
  (fired.map (·.2)).foldl latch { actor with timers := timers }

/-- The codes that fire on this tick, in bank order. -/
def firedCodes (actor : Actor) : List EventCode :=
  actor.timers.firing.map (·.2)

/-- The latched code, if it is due to be forwarded again. -/
def rebroadcast? (frame : Frame) (actor : Actor) : Option EventCode :=
  actor.pendingEvent.filter fun _ =>
    actor.hasFlag .eventLatch && frame.clock.isPeriodic frame.config.periodicPeriod

def run (frame : Frame) (counters : TimerCounters) (actor : Actor) : TimerCounters × Pass :=
  let fired := firedCodes actor
  if fired.isEmpty then
    let codes := (rebroadcast? frame (advance actor)).toList
    ({ counters with rebroadcasts := counters.rebroadcasts + codes.length },
      frame.forward (advance actor) codes)
  else
    ({ counters with fired := counters.fired + fired.length }, frame.forward (advance actor) fired)

end TimerStage
end Rotorcraft
