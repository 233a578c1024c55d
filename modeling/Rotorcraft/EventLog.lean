import Rotorcraft.Event

/-! # The event log

A log keeps the events in the order in which they were pushed. If it has a capacity, it drops the
oldest ones as new ones arrive.
-/

namespace Rotorcraft

/-- The recorded events; a capacity of zero is no limit. -/
structure EventLog where
  capacity : UInt64 := 0
  events : Array Event := #[]
deriving DecidableEq

namespace EventLog

/-- Drops the oldest events beyond the capacity. -/
def trim (log : EventLog) : EventLog :=
  if 0 < log.capacity.toNat ∧ log.capacity.toNat < log.events.size then
    { log with events := log.events.extract (log.events.size - log.capacity.toNat) log.events.size }
  else log

def push (log : EventLog) (event : Event) : EventLog :=
  trim { log with events := log.events.push event }

/-- Appends events one by one. -/
def append (log : EventLog) (events : List Event) : EventLog :=
  events.foldl push log

def toList (log : EventLog) : List Event :=
  log.events.toList

def size (log : EventLog) : Nat :=
  log.events.size

def atTick (log : EventLog) (tick : UInt64) : List Event :=
  log.toList.filter fun event => event.tick == tick

def about (log : EventLog) (actor : ActorId) : List Event :=
  log.toList.filter fun event => event.kind.involves actor

def forwardedTo (log : EventLog) (actor : ActorId) : List EventCode :=
  log.toList.filterMap fun event => event.kind.forwardedTo? actor

def clear (log : EventLog) : EventLog :=
  { log with events := #[] }

end EventLog
end Rotorcraft
