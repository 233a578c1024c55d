import Rotorcraft.Proofs.Spawn
import Rotorcraft.Proofs.Standard

/-! # Well-formed actors

What holds of every record that was made from spawn parameters and then only touched by the engine:
its countdowns are not negative, its path stays in its buffer, its pending code is latched and one of
its own, and its turn rate and bank are in range. Every stage keeps all of this, also when it fails.
-/

namespace Rotorcraft

/-- A word for an angle has twelve bits. -/
theorem Angle.toNat_toWord_lt (angle : Angle) : angle.toWord.toNat < 4096 := by
  have bound := angle.units.isLt
  rw [toWord, UInt16.toNat_ofNat']
  omega

namespace CountedBuffer

theorem length_moveUnits (count : Nat) (half : Bool) (payload target : List UInt8) :
    (moveUnits count half payload target).length = target.length := by
  fun_induction moveUnits count half payload target with
  | case1 count half a b c d payload e f g h target ih =>
    simp only [List.length_cons, ih]
  | case2 => rfl
  | case3 => rfl

/-- A copy that succeeds moves an even number of bytes, which fit, and keeps the length of its target. -/
theorem copy_fits {source target path : List UInt8} {copied : Nat}
    (success : copy source target = .ok (copied, path)) :
    path.length = target.length ∧ copied ≤ target.length ∧ copied % 2 = 0 := by
  simp only [copy] at success
  split at success
  · cases success
  · split_ifs at success with empty truncated small
    · cases success
      exact ⟨rfl, Nat.zero_le _, rfl⟩
    · cases success
      refine ⟨length_moveUnits _ _ _ _, ?_, ?_⟩ <;> omega

end CountedBuffer

theorem Angle.wrapDelta_range (ahead behind : Angle) :
    0 ≤ wrapDelta (ahead.toInt - behind.toInt) ∧ wrapDelta (ahead.toInt - behind.toInt) < 4096 := by
  have first := ahead.units.isLt
  have second := behind.units.isLt
  simp only [wrapDelta, toInt]
  split_ifs <;> omega

/-- Half of a product that is not negative. -/
theorem FixedPoint.toInt_roundedHalf {product : Int32} (above : 0 ≤ product.toInt) :
    (roundedHalf product).toInt = product.toInt / 2 := by
  have bound := product.toInt_lt
  have positive : ¬ product < 0 := by
    rw [Int32.lt_iff_toInt_lt, Int32.toInt_zero]
    omega
  rw [roundedHalf, halfBiased, if_neg positive, Int.add_zero,
    Int32.toInt_ofInt_of_le (by omega) (by omega)]

/-- Turn rate and bank as the engine can derive them. -/
structure Derived.InRange (derived : Derived) : Prop where
  turnRate : 0 ≤ derived.turnRate.toInt ∧ derived.turnRate.toInt ≤ 511
  bank : 0 ≤ derived.bank.toInt ∧ derived.bank.toInt ≤ 639

theorem Derived.inRange_default : Derived.InRange {} := by
  constructor <;> decide

section
variable (actor : Actor) {delta : Int} (above : 0 ≤ delta) (below : delta < 4096)
include above below

theorem DispatchStage.toInt_turnRate_bank : (bank actor delta).derived.turnRate.toInt = delta / 8 :=
  Int32.toInt_ofInt_of_le (by omega) (by omega)

theorem DispatchStage.toInt_bank_bank :
    (bank actor delta).derived.bank.toInt = (delta / 4 + delta / 16) / 2 := by
  have product : (Int32.ofInt (delta / 4 + delta / 16)).toInt = delta / 4 + delta / 16 :=
    Int32.toInt_ofInt_of_le (by omega) (by omega)
  rw [← product]
  exact FixedPoint.toInt_roundedHalf (by omega)

theorem DispatchStage.bank_inRange : (bank actor delta).derived.InRange := by
  have rate := toInt_turnRate_bank actor above below
  have banked := toInt_bank_bank actor above below
  constructor <;> omega

end

/-- A branch that succeeds derives a turn rate and a bank in range. -/
theorem DispatchStage.branch_inRange {frame : Frame} {actor next : Actor}
    (success : branch frame actor = .ok next) (inRange : actor.derived.InRange) :
    next.derived.InRange := by
  simp only [branch] at success
  split at success
  · cases success
    exact ⟨inRange.turnRate, inRange.bank⟩
  · obtain ⟨velocity, rfl⟩ := exists_pursue frame success
    exact ⟨inRange.turnRate, inRange.bank⟩
  · cases success
    have range := Angle.wrapDelta_range frame.reference.bearing actor.orientation.yaw
    exact bank_inRange actor range.1 range.2
  · cases success
    have range := Angle.wrapDelta_range actor.orientation.yaw frame.reference.bearing
    exact bank_inRange actor range.1 range.2
  · cases success
    exact inRange

namespace Actor

/-- A code is latched, and one of the slots announces it. -/
def Latches (actor : Actor) (code : EventCode) : Prop :=
  actor.hasFlag .eventLatch = true ∧ ∃ timer, (actor.timers.slot timer).event = code

/-- A record that the engine can get into by itself. -/
structure WellFormed (actor : Actor) : Prop where
  timers : ∀ timer, 0 ≤ (actor.timers.remaining timer).toInt
  yaw : actor.orientation.yaw.toWord.toNat < 4096
  roll : actor.orientation.roll.toWord.toNat < 4096
  path : actor.path.length = 64
  pathLength : actor.pathLength.toNat ≤ 64 ∧ actor.pathLength.toNat % 2 = 0
  pending : ∀ code, actor.pendingEvent = some code → actor.Latches code
  derived : actor.derived.InRange

namespace WellFormed

variable {actor : Actor}

theorem spawned {params : SpawnParams} (accepted : params.Accepted) (id : ActorId) :
    (params.toActor id).WellFormed where
  timers timer := remaining_spawn accepted timer ▸ accepted.ticks timer
  yaw := Angle.toNat_toWord_lt _
  roll := Angle.toNat_toWord_lt _
  path := List.length_replicate
  pathLength := ⟨Nat.zero_le _, rfl⟩
  pending code pending := by cases pending
  derived := Derived.inRange_default

theorem acknowledged (formed : actor.WellFormed) : actor.acknowledge.WellFormed :=
  { formed with pending := fun code pending => by cases pending }

theorem attached (formed : actor.WellFormed) (handle : Option TurretId) :
    { actor with turret := handle }.WellFormed :=
  { formed with }

theorem advanced (formed : actor.WellFormed) : (TimerStage.advance actor).WellFormed := by
  rw [TimerStage.advance_eq]
  refine { formed with timers := fun timer => ?_, pending := fun code pending => ?_ }
  · simp only [TimerBank.remaining, TimerBank.slot_advance, Countdown.toInt_tick]
    omega
  · simp only [Latches, TimerBank.slot_advance]
    cases fired : (TimerStage.firedCodes actor).getLast? with
    | none =>
      have quiet := List.getLast?_eq_none_iff.mp fired
      rw [fired] at pending
      simp only [quiet, if_true]
      exact formed.pending code pending
    | some last =>
      have fires := List.mem_of_getLast? fired
      have busy : TimerStage.firedCodes actor ≠ [] := List.ne_nil_of_mem fires
      rw [fired] at pending
      obtain rfl : last = code := Option.some.inj pending
      refine ⟨?_, TimerBank.exists_slot_of_fires fires⟩
      simp only [busy, if_false]
      exact ControlFlags.intersects_insert_self _ (by decide)

theorem moved (formed : actor.WellFormed) (frame : Frame) (counters : MotionCounters) :
    (MotionStage.run frame counters actor).2.actor.WellFormed := by
  obtain ⟨orientation, altitude, equation⟩ := MotionStage.exists_run_actor frame counters actor
  rw [equation]
  exact { formed with yaw := Angle.toNat_toWord_lt _, roll := Angle.toNat_toWord_lt _ }

/-- Flags outside the latch and derived values in range do no harm. -/
theorem withFlags (formed : actor.WellFormed) {mask flags : ControlFlags} {derived : Derived}
    (same : ControlFlags.SameOutside mask flags actor.flags)
    (disjoint : mask.bits &&& ControlFlags.eventLatch.bits = 0) (inRange : derived.InRange) :
    { actor with flags := flags, derived := derived }.WellFormed :=
  { formed with
    pending := fun code pending =>
      ⟨(same.intersects_eq disjoint).trans (formed.pending code pending).1,
        (formed.pending code pending).2⟩
    derived := inRange }

theorem dispatched (formed : actor.WellFormed) (frame : Frame) (counters : DispatchCounters) :
    (DispatchStage.run frame counters actor).2.actor.WellFormed := by
  cases outcome : DispatchStage.branch frame actor with
  | ok next =>
    rw [(DispatchStage.run_ok frame counters outcome).1]
    have inRange := DispatchStage.branch_inRange outcome formed.derived
    obtain ⟨flags, derived, rfl, same⟩ := DispatchStage.exists_branch frame outcome
    have safe : ControlFlags.SameOutside DispatchStage.dispatchFlags (flags.insert .divisionSafe) flags :=
      (ControlFlags.SameOutside.insert _ _).widen (by decide)
    exact formed.withFlags (safe.trans same) (by decide) inRange
  | error fault =>
    rw [(DispatchStage.run_fault frame counters outcome).1]
    exact formed.withFlags (.remove .divisionSafe actor.flags) (by decide) formed.derived

theorem transferred (formed : actor.WellFormed) (frame : Frame) (counters : TransferCounters) :
    (TransferStage.run frame counters actor).2.actor.WellFormed := by
  have consumed : (actor.clearFlag .reloadPath).WellFormed :=
    formed.withFlags (.remove .reloadPath actor.flags) (by decide) formed.derived
  obtain ⟨kept, _⟩ | cleared | ⟨bytes, copied, path, success, stored⟩ :=
    TransferStage.run_actor frame counters actor
  · rw [kept]
    exact formed
  · rw [cleared]
    exact consumed
  · obtain ⟨length, fits, even⟩ := CountedBuffer.copy_fits success
    have bound := formed.path
    have whole : (UInt64.ofNat copied).toNat = copied := UInt64.toNat_ofNat_of_lt' (by
      simp only [UInt64.size]
      omega)
    rw [stored]
    refine { consumed with path := length.trans bound, pathLength := ?_ }
    rw [whole]
    omega

/-- The standard pipeline keeps actors well formed, wherever it ends. -/
theorem run (formed : actor.WellFormed) {frame : Frame} {stages : List Stage}
    (standard : Pipeline.IsStandard stages) : (Pipeline.run frame stages actor).2.actor.WellFormed :=
  Pipeline.run_standard_induction standard (fun _ kept => kept.advanced)
    (fun counters _ kept => kept.moved frame counters)
    (fun counters _ kept => kept.dispatched frame counters)
    (fun counters _ kept => kept.transferred frame counters) formed

end WellFormed
end Actor
end Rotorcraft
