import Rotorcraft.Proofs.Spawn
import Rotorcraft.Proofs.Standard

/-! # Timers and their history

An actor keeps four countdowns, one pending code and one latch. What these say at a given age follows
from the parameters that it was spawned with and from the ages at which it was last acknowledged: the
countdowns tell which slots have still to fire, and the pending code is the last one that fired, until
it is acknowledged.
-/

namespace Rotorcraft

namespace SpawnParams

variable (params : SpawnParams)

/-- The codes of the timers that are armed with `age` ticks, in bank order. -/
def codesAt (age : Nat) : List EventCode :=
  (TimerName.all.filter fun timer => (params.ticks timer).toInt = age).map params.code

/-- Before `age`, timers last fired at the age `fired`, and `code` was the last of their codes. -/
structure LastFired (age fired : Nat) (code : EventCode) : Prop where
  positive : 0 < fired
  before : fired < age
  code : (params.codesAt fired).getLast? = some code
  quiet : ∀ between, fired < between → between < age → params.codesAt between = []

variable {params}

/-- On a quiet tick, what fired last stays the same. -/
theorem lastFired_succ_of_quiet {age : Nat} (quiet : params.codesAt age = []) {fired : Nat}
    {code : EventCode} : params.LastFired (age + 1) fired code ↔ params.LastFired age fired code := by
  constructor
  · intro last
    have other : fired ≠ age := by
      rintro rfl
      have none := last.code
      rw [quiet] at none
      cases none
    have before := last.before
    exact ⟨last.positive, by omega, last.code, fun between after earlier =>
      last.quiet between after (by omega)⟩
  · intro last
    have before := last.before
    refine ⟨last.positive, by omega, last.code, fun between after earlier => ?_⟩
    by_cases now : between = age
    · rw [now]
      exact quiet
    · exact last.quiet between after (by omega)

/-- On a tick on which timers fire, the last of their codes is what fired last. -/
theorem lastFired_succ_of_fires {age : Nat} {last : EventCode} (positive : 0 < age)
    (fires : (params.codesAt age).getLast? = some last) {fired : Nat} {code : EventCode} :
    params.LastFired (age + 1) fired code ↔ fired = age ∧ code = last := by
  constructor
  · intro firing
    have now : fired = age := by
      by_contra other
      have before := firing.before
      rw [firing.quiet age (by omega) (by omega)] at fires
      cases fires
    have same := firing.code
    rw [now, fires] at same
    exact ⟨now, (Option.some.inj same).symm⟩
  · rintro ⟨rfl, rfl⟩
    exact ⟨positive, by omega, fires, fun between after earlier => by omega⟩

end SpawnParams

namespace Actor

/-- An actor of a given age whose timers, pending code and latch say what its history says. -/
structure Follows (params : SpawnParams) (age : Nat) (acknowledged : Nat → Prop) (actor : Actor) : Prop
    where
  remaining : ∀ timer,
    (actor.timers.remaining timer).toInt = max 0 ((params.ticks timer).toInt - age)
  code : ∀ timer, (actor.timers.slot timer).event = params.code timer
  /-- The code that fired last is pending if it has not been acknowledged since. -/
  pending : ∀ code, actor.pendingEvent = some code ↔
    ∃ fired, params.LastFired (age + 1) fired code ∧ ¬ acknowledged fired
  latched : ∀ code, actor.pendingEvent = some code → actor.hasFlag .eventLatch = true

/-- Two actors whose timers, pending code and latch agree. -/
structure SameTimers (before after : Actor) : Prop where
  timers : after.timers = before.timers
  pendingEvent : after.pendingEvent = before.pendingEvent
  latch : after.hasFlag .eventLatch = before.hasFlag .eventLatch

namespace SameTimers

theorem refl (actor : Actor) : actor.SameTimers actor := ⟨rfl, rfl, rfl⟩

theorem trans {first second third : Actor} (left : first.SameTimers second)
    (right : second.SameTimers third) : first.SameTimers third where
  timers := right.timers.trans left.timers
  pendingEvent := right.pendingEvent.trans left.pendingEvent
  latch := right.latch.trans left.latch

end SameTimers
end Actor

/-- The stages after the timer stage leave the timers, the pending code and the latch alone. -/
theorem Pipeline.run_sameTimers {frame : Frame} {stages : List Stage} (standard : IsStandard stages)
    (actor : Actor) : (TimerStage.advance actor).SameTimers (run frame stages actor).2.actor := by
  have later : (TimerStage.advance actor).SameTimers
      (run frame [.motion {}, .dispatch {}, .transfer {}] (TimerStage.advance actor)).2.actor := by
    refine run_induction (fun stage member next same => same.trans ?_) (.refl _)
    simp only [List.mem_cons, List.not_mem_nil, or_false] at member
    rcases member with rfl | rfl | rfl
    · obtain ⟨orientation, altitude, equation⟩ := MotionStage.exists_run_actor frame {} next
      simp only [Stage.run, equation]
      exact ⟨rfl, rfl, rfl⟩
    · obtain ⟨flags, derived, equation, outside⟩ := DispatchStage.exists_run_actor frame {} next
      simp only [Stage.run, equation]
      exact ⟨rfl, rfl, outside.intersects_eq (by decide)⟩
    · obtain ⟨flags, path, pathLength, equation, outside⟩ :=
        TransferStage.exists_run_actor frame {} next
      simp only [Stage.run, equation]
      exact ⟨rfl, rfl, outside.intersects_eq (by decide)⟩
  have passed : (Stage.run frame (.timers {}) actor).2.error = none :=
    TimerStage.run_error frame {} actor
  rw [standard.run_eq, Stage.standard, run_cons_ok passed]
  simpa only [Pass.followedBy, Stage.run, TimerStage.run_actor] using later

namespace Actor.Follows

variable {params : SpawnParams} {age : Nat} {acknowledged : Nat → Prop} {actor : Actor}

theorem spawned (accepted : params.Accepted) (id : ActorId) :
    (params.toActor id).Follows params 0 acknowledged where
  remaining timer := by
    have above := accepted.ticks timer
    rw [remaining_spawn accepted]
    omega
  code := event_spawn
  pending code := by
    constructor
    · rintro ⟨⟩
    · rintro ⟨fired, last, _⟩
      have positive := last.positive
      have before := last.before
      omega
  latched code pending := by cases pending

/-- The timers that fire are those that were armed with as many ticks. -/
theorem firedCodes_eq (follows : actor.Follows params age acknowledged) :
    TimerStage.firedCodes actor = params.codesAt (age + 1) := by
  rw [TimerStage.firedCodes, TimerBank.firing_codes, SpawnParams.codesAt]
  have due (timer : TimerName) : (actor.timers.remaining timer).toInt = 1 ↔
      (params.ticks timer).toInt = (age + 1 : Nat) := by
    rw [follows.remaining]
    omega
  simp only [due, follows.code]

/-- The invariant at a glance of the same timers. -/
theorem of_sameTimers (follows : actor.Follows params age acknowledged) {after : Actor}
    (same : actor.SameTimers after) : after.Follows params age acknowledged where
  remaining timer := by
    rw [same.timers]
    exact follows.remaining timer
  code timer := by
    rw [same.timers]
    exact follows.code timer
  pending code := by
    rw [same.pendingEvent]
    exact follows.pending code
  latched code pending := by
    rw [same.pendingEvent] at pending
    rw [same.latch]
    exact follows.latched code pending

/-- The timer stage makes an actor one tick older. -/
theorem advanced (follows : actor.Follows params age acknowledged)
    (past : ∀ fired, acknowledged fired → fired ≤ age) :
    (TimerStage.advance actor).Follows params (age + 1) acknowledged := by
  rw [TimerStage.advance_eq, follows.firedCodes_eq]
  refine ⟨fun timer => ?_, fun timer => ?_, fun code => ?_, fun code pending => ?_⟩
  · have before := follows.remaining timer
    simp only [TimerBank.remaining, TimerBank.slot_advance, Countdown.toInt_tick] at before ⊢
    omega
  · simp only [TimerBank.slot_advance]
    exact follows.code timer
  · cases fires : (params.codesAt (age + 1)).getLast? with
    | none =>
      have quiet := List.getLast?_eq_none_iff.mp fires
      simp only [Option.none_or, SpawnParams.lastFired_succ_of_quiet quiet]
      exact follows.pending code
    | some last =>
      simp only [Option.some_or, Option.some.injEq,
        SpawnParams.lastFired_succ_of_fires (Nat.succ_pos age) fires]
      constructor
      · rintro rfl
        refine ⟨age + 1, ⟨rfl, rfl⟩, fun early => ?_⟩
        have bound := past _ early
        omega
      · rintro ⟨fired, ⟨_, rfl⟩, _⟩
        rfl
  · cases fires : params.codesAt (age + 1) with
    | nil =>
      simp only [fires, List.getLast?_nil, Option.none_or] at pending
      exact follows.latched code pending
    | cons first rest => exact ControlFlags.intersects_insert_self _ (by decide)

/-- A tick makes an actor one tick older, wherever it ends. -/
theorem run (follows : actor.Follows params age acknowledged)
    (past : ∀ fired, acknowledged fired → fired ≤ age) {frame : Frame} {stages : List Stage}
    (standard : Pipeline.IsStandard stages) :
    (Pipeline.run frame stages actor).2.actor.Follows params (age + 1) acknowledged :=
  (follows.advanced past).of_sameTimers (Pipeline.run_sameTimers standard actor)

theorem acknowledge (follows : actor.Follows params age acknowledged) {now : Nat → Prop}
    (all : ∀ fired, fired ≤ age → now fired) : actor.acknowledge.Follows params age now where
  remaining := follows.remaining
  code := follows.code
  pending code := by
    constructor
    · rintro ⟨⟩
    · rintro ⟨fired, last, unacknowledged⟩
      have before := last.before
      exact absurd (all fired (by omega)) unacknowledged
  latched code pending := by cases pending

/-- The invariant depends on the acknowledgements as a set only. -/
theorem congr (follows : actor.Follows params age acknowledged) {other : Nat → Prop}
    (same : ∀ fired, other fired ↔ acknowledged fired) : actor.Follows params age other := by
  obtain rfl : other = acknowledged := funext fun fired => propext (same fired)
  exact follows

end Actor.Follows
end Rotorcraft
