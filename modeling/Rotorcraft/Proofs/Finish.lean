import Rotorcraft.Proofs.Faults
import Rotorcraft.Proofs.Isolation

/-! # The end of a tick

A tick of the standard pipeline ends with the dispatcher and the transfer. No mode of the dispatcher reads
what is written there, and a request to load a path is consumed, so that an actor which has been through
both does not change when it goes through them again. What becomes of it does not depend on the clock.
-/

namespace Rotorcraft

namespace TransferStage

variable (frame : Frame) (counters : TransferCounters) (actor : Actor)

theorem load_advanced (key : String) :
    (load frame.advanced counters actor key).2.actor = (load frame counters actor key).2.actor := by
  have host : frame.advanced.host = frame.host := rfl
  simp only [load, host]
  cases frame.host.asset? key with
  | none => rfl
  | some bytes =>
    simp only [store]
    cases CountedBuffer.copy bytes actor.path <;> rfl

/-- The transfer stage tells the time in its events only. -/
theorem run_advanced :
    (run frame.advanced counters actor).2.actor = (run frame counters actor).2.actor := by
  simp only [run]
  split
  · rfl
  · split
    · rfl
    · exact load_advanced ..

end TransferStage

namespace Actor

/-- What becomes of an actor in a tick does not depend on the clock. -/
theorem ticked_advanced (frame : Frame) : ticked frame.advanced = ticked frame := by
  funext actor
  have moved : actor.moved frame.advanced = actor.moved frame := by
    simp only [Actor.moved, TimerStage.run_actor, MotionStage.run_actor]
    rfl
  have branch : DispatchStage.branch frame.advanced = DispatchStage.branch frame := rfl
  simp only [ticked, finished, moved, branch, TransferStage.run_advanced]

theorem after_eq_iterate (frame : Frame) (actor : Actor) (count : Nat) :
    actor.after frame count = (ticked frame)^[count] actor := by
  induction count generalizing frame actor with
  | zero => rfl
  | succ count ih =>
    rw [after, ih, Pipeline.pass_actor, Pipeline.run_standard_actor Pipeline.isStandard_standard,
      ticked_advanced, Function.iterate_succ_apply]

end Actor

namespace TransferStage

variable (frame : Frame) (counters : TransferCounters) (actor : Actor)

theorem run_of_idle {actor : Actor} (idle : actor.hasFlag .reloadPath = false) :
    (run frame counters actor).2.actor = actor := by
  rw [run, idle]
  rfl

/-- Whether it succeeds or not, the transfer stage leaves no request behind. -/
theorem reloadPath_run : (run frame counters actor).2.actor.hasFlag .reloadPath = false := by
  obtain ⟨kept, idle⟩ | consumed | ⟨_, _, _, _, stored⟩ := run_actor frame counters actor
  · rw [kept, idle]
  · rw [consumed]
    exact ControlFlags.intersects_remove_self _ _
  · rw [stored]
    exact ControlFlags.intersects_remove_self _ _

end TransferStage

namespace DispatchStage

/-- The flags that are written after a branch. -/
def finishFlags : ControlFlags :=
  ControlFlags.divisionSafe.insert .reloadPath

section
variable {frame : Frame} {actor next : Actor} {flags : ControlFlags}

/-- The pursuit of an actor that has the velocity of its pursuit leaves it as it is. -/
theorem pursue_again (success : pursue frame actor = .ok next)
    (same : ControlFlags.SameOutside finishFlags flags next.flags) (path : List UInt8)
    (pathLength : UInt64) :
    let later := { next with flags := flags, path := path, pathLength := pathLength }
    pursue frame later = .ok later := by
  intro later
  rw [pursue] at success
  cases quotient : FixedPoint.safeDivide (pursuedOffset frame actor) frame.config.pursuitDivisor with
  | error fault => simp [quotient, Except.map] at success
  | ok velocity =>
    rw [quotient] at success
    obtain rfl := Except.ok.inj success
    have offset : pursuedOffset frame later = pursuedOffset frame actor :=
      pursuedOffset_congr frame rfl same (by decide) (by decide)
    rw [pursue, offset, quotient]
    rfl

/-- A branch that is run on what it has made before makes nothing new of it, also after the flags that
do not concern it and the path have been written. -/
theorem branch_again (success : branch frame actor = .ok next)
    (same : ControlFlags.SameOutside finishFlags flags next.flags) (path : List UInt8)
    (pathLength : UInt64) :
    let later := { next with flags := flags, path := path, pathLength := pathLength }
    branch frame later = .ok later := by
  intro later
  simp only [branch] at success
  split at success
  · next selected =>
    obtain rfl := Except.ok.inj success
    -- only this branch writes a flag that another one reads
    have mode : later.mode = .init := selected
    have primary : later.hasFlag .secondaryPath = false :=
      (same.intersects_eq (by decide)).trans (ControlFlags.intersects_remove_self _ _)
    rw [branch, mode, anchor, Actor.clearFlag_eq_self primary]
    rfl
  · next selected =>
    obtain ⟨velocity, rfl⟩ := exists_pursue frame success
    have mode : later.mode = .pursue := selected
    rw [branch, mode]
    exact pursue_again success same path pathLength
  · next selected =>
    obtain rfl := Except.ok.inj success
    have mode : later.mode = .adjustLeft := selected
    rw [branch, mode]
    rfl
  · next selected =>
    obtain rfl := Except.ok.inj success
    have mode : later.mode = .adjustRight := selected
    rw [branch, mode]
    rfl
  · next selector selected =>
    obtain rfl := Except.ok.inj success
    have mode : later.mode = .fallback selector := selected
    have told : later.flags.contains .transitioned = true :=
      (same.contains_eq (by decide)).trans (ControlFlags.contains_insert_self _ _)
    rw [branch, mode]
    simp only [Actor.setFlag_eq_self told]

end
end DispatchStage

namespace Actor

/-- An actor whose division was accepted is what its branch makes of it, with its safety told and nothing
left to load. -/
theorem finished_accepted {frame : Frame} {actor next : Actor}
    (success : DispatchStage.branch frame actor = .ok next) :
    DispatchStage.branch frame (actor.finished frame) = .ok (actor.finished frame) ∧
      (actor.finished frame).flags.contains .divisionSafe = true ∧
      (actor.finished frame).hasFlag .reloadPath = false := by
  have idle := TransferStage.reloadPath_run frame {} (next.setFlag .divisionSafe)
  obtain ⟨flags, path, pathLength, equation, same⟩ :=
    TransferStage.exists_run_actor frame {} (next.setFlag .divisionSafe)
  have untouched : ControlFlags.SameOutside DispatchStage.finishFlags flags next.flags :=
    (same.widen (by decide)).trans ((ControlFlags.SameOutside.insert _ _).widen (by decide))
  rw [equation] at idle
  rw [finished, success]
  simp only [equation]
  refine ⟨DispatchStage.branch_again success untouched path pathLength, ?_, idle⟩
  exact (same.contains_eq (by decide)).trans (ControlFlags.contains_insert_self _ _)

/-- An actor that has been finished stays as it is if it is finished again. -/
theorem finished_finished (frame : Frame) (actor : Actor) :
    (actor.finished frame).finished frame = actor.finished frame := by
  obtain ⟨fault, refused, _⟩ | ⟨next, _, success⟩ := DispatchStage.branch_cases frame actor
  · have again : DispatchStage.refusal? frame (actor.clearFlag .divisionSafe) = some fault := by
      rw [← refused]
      exact DispatchStage.refusal?_congr frame rfl rfl (.remove .divisionSafe actor.flags) (by decide)
        (by decide)
    rw [finished_refused refused, finished_refused again]
    exact clearFlag_eq_self (ControlFlags.intersects_remove_self _ _)
  · obtain ⟨again, safe, idle⟩ := finished_accepted success
    generalize actor.finished frame = later at again safe idle ⊢
    rw [finished, again]
    simp only [setFlag_eq_self safe, TransferStage.run_of_idle frame {} idle]

end Actor
end Rotorcraft
