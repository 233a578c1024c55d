import Mathlib.Data.List.DropRight
import Rotorcraft.Proofs.Tick

/-! # What a log of limited capacity shows

A log with a capacity shows the newest of the events that were pushed onto it, as many as fit; where the
older ones were dropped on the way makes no difference.
-/

namespace Rotorcraft

/-- Of what is dropped before something is appended, nothing is missed afterwards. -/
theorem rtake_rtake_append {α : Type} (list more : List α) (count : Nat) :
    (list.rtake count ++ more).rtake count = (list ++ more).rtake count := by
  simp only [List.rtake, List.drop_append, List.drop_drop, List.length_append, List.length_drop]
  congr 2 <;> omega

namespace EventLog

/-- The events that a log of a capacity shows after some events. -/
def newest (capacity : UInt64) (events : List Event) : List Event :=
  if capacity = 0 then events else events.rtake capacity.toNat

theorem newest_of_limited {capacity : UInt64} (limited : capacity ≠ 0) (events : List Event) :
    newest capacity events = events.rtake capacity.toNat := if_neg limited

@[simp] theorem newest_nil (capacity : UInt64) : newest capacity [] = [] := by
  simp [newest]

theorem newest_append (capacity : UInt64) (events more : List Event) :
    newest capacity (newest capacity events ++ more) = newest capacity (events ++ more) := by
  simp only [newest]
  split
  · rfl
  · exact rtake_rtake_append events more _

/-- Of events that come after others, only as many are shown as the later ones leave room for. -/
theorem exists_newest_append (capacity : UInt64) (events more : List Event) :
    ∃ kept, kept <:+ events ∧ newest capacity (events ++ more) = kept ++ newest capacity more := by
  rw [newest, newest]
  split
  · exact ⟨events, List.suffix_refl _, rfl⟩
  · refine ⟨_, List.drop_suffix ((events ++ more).length - capacity.toNat) events, ?_⟩
    rw [List.rtake, List.rtake, List.drop_append, List.length_append]
    congr 2
    omega

theorem newest_suffix (capacity : UInt64) (events : List Event) : newest capacity events <:+ events := by
  rw [newest]
  split
  · exact List.suffix_refl _
  · exact List.drop_suffix _ _

theorem newest_eq_self {capacity : UInt64} {events : List Event} (room : events.length ≤ capacity.toNat) :
    newest capacity events = events := by
  rw [newest]
  split
  · rfl
  · rw [List.rtake, Nat.sub_eq_zero_of_le room, List.drop_zero]

/-- An event is shown as long as fewer later ones have been pushed than the log can hold. -/
theorem newest_cons (capacity : UInt64) (event : Event) (more : List Event) :
    newest capacity (event :: more) =
      (if capacity = 0 ∨ more.length < capacity.toNat then [event] else []) ++ newest capacity more := by
  by_cases unlimited : capacity = 0
  · rw [if_pos (.inl unlimited), newest, newest, if_pos unlimited, if_pos unlimited, List.singleton_append]
  · by_cases room : more.length < capacity.toNat
    · rw [if_pos (.inr room), newest_eq_self (by rw [List.length_cons]; omega), newest_eq_self (by omega),
        List.singleton_append]
    · rw [if_neg (not_or.mpr ⟨unlimited, room⟩), newest_of_limited unlimited, newest_of_limited unlimited,
        List.rtake, List.rtake, List.length_cons, Nat.succ_sub (by omega), List.drop_succ_cons, List.nil_append]

theorem trim_capacity (log : EventLog) : log.trim.capacity = log.capacity := by
  simp only [trim]
  split <;> rfl

theorem toList_trim (log : EventLog) : log.trim.toList = newest log.capacity log.toList := by
  have limited_iff : 0 < log.capacity.toNat ↔ log.capacity ≠ 0 := by
    rw [Nat.pos_iff_ne_zero, ne_eq, ne_eq, ← UInt64.toNat_inj, UInt64.toNat_zero]
  simp only [trim, newest, limited_iff, List.rtake]
  by_cases unlimited : log.capacity = 0
  · simp [unlimited]
  · by_cases full : log.capacity.toNat < log.events.size
    · rw [if_pos ⟨unlimited, full⟩, if_neg unlimited]
      simp only [toList, Array.toList_extract, List.extract_eq_take_drop, Array.length_toList]
      exact List.take_of_length_le (by rw [List.length_drop, Array.length_toList])
    · have fits : log.events.size - log.capacity.toNat = 0 := by omega
      simp [unlimited, full, toList, fits]

theorem toList_push (log : EventLog) (event : Event) :
    (log.push event).toList = newest log.capacity (log.toList ++ [event]) := by
  rw [push, toList_trim]
  simp [toList]

/-- A log that shows the newest of some events goes on to show the newest of these and more. -/
theorem toList_append_newest {log : EventLog} {events : List Event}
    (shown : log.toList = newest log.capacity events) (more : List Event) :
    (log.append more).toList = newest log.capacity (events ++ more) := by
  induction more generalizing log events with
  | nil => rw [List.append_nil, ← shown]; rfl
  | cons event rest ih =>
    have capacity : (log.push event).capacity = log.capacity := trim_capacity _
    have pushed : (log.push event).toList = newest (log.push event).capacity (events ++ [event]) := by
      rw [toList_push, shown, newest_append, capacity]
    have later := ih pushed
    rw [capacity, List.append_assoc, List.singleton_append] at later
    exact later

end EventLog

/-- What can be done with a log. -/
inductive LogAction where
  | push (event : Event)
  | clear

namespace LogAction

def event? : LogAction → Option Event
  | .push event => some event
  | .clear => none

/-- The events that were pushed after the log was last cleared. -/
def sinceClear (actions : List LogAction) : List Event :=
  (actions.rtakeWhile fun action => action.event?.isSome).filterMap event?

end LogAction

namespace EventLog

def act (log : EventLog) : LogAction → EventLog
  | .push event => log.push event
  | .clear => log.clear

def actAll (log : EventLog) (actions : List LogAction) : EventLog :=
  actions.foldl act log

theorem capacity_actAll (log : EventLog) (actions : List LogAction) :
    (log.actAll actions).capacity = log.capacity := by
  induction actions generalizing log with
  | nil => rfl
  | cons action rest ih =>
    refine (ih (log.act action)).trans ?_
    cases action with
    | push event => exact trim_capacity _
    | clear => rfl

/-- Whatever is pushed and cleared, a log shows the newest of what was pushed since it was cleared. -/
theorem toList_actAll (capacity : UInt64) (actions : List LogAction) :
    (actAll { capacity := capacity } actions).toList =
      newest capacity (LogAction.sinceClear actions) := by
  induction actions using List.reverseRecOn with
  | nil => simp [actAll, toList, LogAction.sinceClear]
  | append_singleton earlier action ih =>
    have kept := capacity_actAll { capacity := capacity } earlier
    rw [actAll, List.foldl_append, LogAction.sinceClear, List.rtakeWhile_concat]
    change ((actAll { capacity := capacity } earlier).act action).toList = _
    cases action with
    | push event =>
      rw [act, toList_push, ih, kept, newest_append]
      simp [LogAction.event?, LogAction.sinceClear]
    | clear => simp [act, clear, toList, LogAction.event?]

end EventLog
end Rotorcraft
