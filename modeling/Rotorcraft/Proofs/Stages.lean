import Rotorcraft.Proofs.ControlWord
import Rotorcraft.Proofs.Pipeline

/-! # What the standard stages do to an actor

Each stage writes its own part of an actor and leaves the rest alone. `Actor.Persists` collects what
no stage of the standard pipeline ever changes; the equations beside it say what each stage does
change. Only the dispatch stage can fail, so an actor always goes through the first three stages.
-/

namespace Rotorcraft

/-- The flags that a tick of the standard pipeline may change. -/
def ControlFlags.ticking : ControlFlags :=
  [eventLatch, secondaryPath, divisionSafe, transitioned, reloadPath].foldl insert {}

/-- What a tick of the standard pipeline leaves alone. -/
structure Actor.Persists (before after : Actor) : Prop where
  id : after.id = before.id
  name : after.name = before.name
  position : after.position = before.position
  spin : after.spin = before.spin
  status : after.status = before.status
  turret : after.turret = before.turret
  pathAsset : after.pathAsset = before.pathAsset
  codes : ∀ timer, (after.timers.slot timer).event = (before.timers.slot timer).event
  flags : ControlFlags.SameOutside .ticking after.flags before.flags

namespace Actor.Persists

theorem refl (actor : Actor) : actor.Persists actor :=
  ⟨rfl, rfl, rfl, rfl, rfl, rfl, rfl, fun _ => rfl, .refl _ _⟩

theorem trans {first second third : Actor} (left : first.Persists second)
    (right : second.Persists third) : first.Persists third where
  id := right.id.trans left.id
  name := right.name.trans left.name
  position := right.position.trans left.position
  spin := right.spin.trans left.spin
  status := right.status.trans left.status
  turret := right.turret.trans left.turret
  pathAsset := right.pathAsset.trans left.pathAsset
  codes timer := (right.codes timer).trans (left.codes timer)
  flags := right.flags.trans left.flags

end Actor.Persists

/-- Every slot counts down and keeps its code. -/
theorem TimerBank.slot_advance (bank : TimerBank) (timer : TimerName) :
    bank.advance.slot timer = { bank.slot timer with timer := (bank.slot timer).timer.tick.1 } := by
  cases timer <;> rfl

namespace TimerStage

variable (frame : Frame) (counters : TimerCounters) (actor : Actor)

/-- Codes latched in turn leave the last of them pending. -/
theorem foldl_latch (codes : List EventCode) :
    codes.foldl latch actor =
      { actor with
        flags := if codes = [] then actor.flags else actor.flags.insert .eventLatch
        pendingEvent := codes.getLast?.or actor.pendingEvent } := by
  induction codes generalizing actor with
  | nil => rfl
  | cons code rest ih =>
    rw [List.foldl_cons, ih]
    cases rest with
    | nil => rfl
    | cons next rest =>
      simp [latch, Actor.setFlag, ControlFlags.insert, UInt16.or_assoc, List.getLast?_cons]

/-- The timers advance, and the code that fired last is pending with its latch set. -/
theorem advance_eq : advance actor =
    { actor with
      timers := actor.timers.advance
      flags := if firedCodes actor = [] then actor.flags else actor.flags.insert .eventLatch
      pendingEvent := (firedCodes actor).getLast?.or actor.pendingEvent } :=
  foldl_latch { actor with timers := actor.timers.advance } (firedCodes actor)

@[simp] theorem run_actor : (run frame counters actor).2.actor = advance actor := by
  simp only [run]
  split <;> rfl

@[simp] theorem run_error : (run frame counters actor).2.error = none := by
  simp only [run]
  split <;> rfl

theorem advance_flags :
    ControlFlags.SameOutside .eventLatch (advance actor).flags actor.flags := by
  simp only [advance_eq]
  split
  · exact .refl _ _
  · exact .insert _ _

theorem advance_persists : actor.Persists (advance actor) where
  id := by rw [advance_eq]
  name := by rw [advance_eq]
  position := by rw [advance_eq]
  spin := by rw [advance_eq]
  status := by rw [advance_eq]
  turret := by rw [advance_eq]
  pathAsset := by rw [advance_eq]
  codes timer := by
    rw [advance_eq]
    simp only [TimerBank.slot_advance]
  flags := (advance_flags actor).widen (by decide)

end TimerStage

namespace MotionStage

variable (frame : Frame) (counters : MotionCounters) (actor : Actor)

@[simp] theorem run_error : (run frame counters actor).2.error = none := by
  simp only [run]
  split
  · rfl
  · split <;> rfl

def attracted : Actor :=
  match frame.turret? actor with
  | some turret => aim frame turret (climb frame actor)
  | none => climb frame actor

/-- An actor turns, and it is attracted if attraction is active. -/
theorem run_actor : (run frame counters actor).2.actor =
    if actor.hasFlag .attractionActive then attracted frame (turn actor) else turn actor := by
  have flag : (turn actor).hasFlag .attractionActive = actor.hasFlag .attractionActive := rfl
  have handle : frame.turret? (climb frame (turn actor)) = frame.turret? (turn actor) := rfl
  simp only [run, flag, handle, attracted]
  cases actor.hasFlag .attractionActive with
  | false => rfl
  | true => cases frame.turret? (turn actor) <;> rfl

/-- The motion stage writes the orientation and the altitude only. -/
theorem exists_run_actor : ∃ orientation altitude, (run frame counters actor).2.actor =
    { actor with orientation := orientation, altitude := altitude } := by
  rw [run_actor]
  split
  · rw [attracted]
    split <;> exact ⟨_, _, rfl⟩
  · exact ⟨_, _, rfl⟩

theorem run_persists : actor.Persists (run frame counters actor).2.actor := by
  obtain ⟨orientation, altitude, equation⟩ := exists_run_actor frame counters actor
  rw [equation]
  exact ⟨rfl, rfl, rfl, rfl, rfl, rfl, rfl, fun _ => rfl, .refl _ _⟩

end MotionStage

namespace DispatchStage

variable (frame : Frame) (counters : DispatchCounters) (actor : Actor)

/-- The flags that a dispatch may change. -/
def dispatchFlags : ControlFlags :=
  [ControlFlags.secondaryPath, .divisionSafe, .transitioned].foldl ControlFlags.insert {}

/-- A pursuit that succeeds writes the velocity only. -/
theorem exists_pursue {actor next : Actor} (success : pursue frame actor = .ok next) :
    ∃ velocity, next = { actor with derived := { actor.derived with velocity := velocity } } := by
  rw [pursue] at success
  cases quotient : FixedPoint.safeDivide (pursuedOffset frame actor) frame.config.pursuitDivisor with
  | error fault => simp [quotient, Except.map] at success
  | ok velocity =>
    simp only [quotient, Except.map, Except.ok.injEq] at success
    exact ⟨velocity, success.symm⟩

/-- A branch that succeeds writes the derived values and two of the flags only. -/
theorem exists_branch {actor next : Actor} (success : branch frame actor = .ok next) :
    ∃ flags derived, next = { actor with flags := flags, derived := derived } ∧
      ControlFlags.SameOutside dispatchFlags flags actor.flags := by
  simp only [branch] at success
  split at success
  · cases success
    exact ⟨_, _, rfl, (ControlFlags.SameOutside.remove _ _).widen (by decide)⟩
  · obtain ⟨velocity, rfl⟩ := exists_pursue frame success
    exact ⟨_, _, rfl, .refl _ _⟩
  · cases success
    exact ⟨_, _, rfl, .refl _ _⟩
  · cases success
    exact ⟨_, _, rfl, .refl _ _⟩
  · cases success
    exact ⟨_, _, rfl, (ControlFlags.SameOutside.insert _ _).widen (by decide)⟩

/-- A dispatch that succeeds sets the flag of safe division on what its branch made. -/
theorem run_ok {actor next : Actor} (success : branch frame actor = .ok next) :
    (run frame counters actor).2.actor = next.setFlag .divisionSafe ∧
      (run frame counters actor).2.error = none := by
  simp only [run, dispatch, success, and_self]

/-- A dispatch that fails clears the flag of safe division and does nothing else. -/
theorem run_fault {actor : Actor} {fault : DivisionFault} (failed : branch frame actor = .error fault) :
    (run frame counters actor).2.actor = actor.clearFlag .divisionSafe ∧
      (run frame counters actor).2.error = some (.division fault) := by
  simp only [run, dispatch, failed, and_self]

/-- The dispatch stage writes the derived values and three of the flags only. -/
theorem exists_run_actor : ∃ flags derived, (run frame counters actor).2.actor =
      { actor with flags := flags, derived := derived } ∧
    ControlFlags.SameOutside dispatchFlags flags actor.flags := by
  cases outcome : branch frame actor with
  | ok next =>
    obtain ⟨flags, derived, rfl, same⟩ := exists_branch frame outcome
    rw [(run_ok frame counters outcome).1]
    refine ⟨_, _, rfl, ControlFlags.SameOutside.trans ?_ same⟩
    exact (ControlFlags.SameOutside.insert _ _).widen (by decide)
  | error fault =>
    rw [(run_fault frame counters outcome).1]
    exact ⟨_, _, rfl, (ControlFlags.SameOutside.remove _ _).widen (by decide)⟩

theorem run_persists : actor.Persists (run frame counters actor).2.actor := by
  obtain ⟨flags, derived, equation, same⟩ := exists_run_actor frame counters actor
  rw [equation]
  exact ⟨rfl, rfl, rfl, rfl, rfl, rfl, rfl, fun _ => rfl, same.widen (by decide)⟩

end DispatchStage

namespace TransferStage

variable (frame : Frame) (counters : TransferCounters) (actor : Actor)

/-- A load either leaves an actor alone or stores what was copied. -/
theorem load_actor (key : String) :
    (load frame counters actor key).2.actor = actor ∨
      ∃ bytes copied path, CountedBuffer.copy bytes actor.path = .ok (copied, path) ∧
        (load frame counters actor key).2.actor =
          { actor with path := path, pathLength := UInt64.ofNat copied } := by
  simp only [load]
  split
  · next bytes _ =>
    simp only [store]
    split
    · next copied path success => exact .inr ⟨bytes, copied, path, success, rfl⟩
    · exact .inl rfl
  · exact .inl rfl

@[simp] theorem run_error : (run frame counters actor).2.error = none := by
  simp only [run, load, store]
  repeat' split
  all_goals rfl

/-- The transfer stage consumes the request, and it stores what was copied if a load succeeds. -/
theorem run_actor :
    ((run frame counters actor).2.actor = actor ∧ actor.hasFlag .reloadPath = false) ∨
      (run frame counters actor).2.actor = actor.clearFlag .reloadPath ∨
      ∃ bytes copied path, CountedBuffer.copy bytes actor.path = .ok (copied, path) ∧
        (run frame counters actor).2.actor =
          { actor.clearFlag .reloadPath with path := path, pathLength := UInt64.ofNat copied } := by
  simp only [run]
  split
  · next idle => exact .inl ⟨rfl, by simpa using idle⟩
  · right
    split
    · exact .inl rfl
    · next key _ => exact load_actor frame counters (actor.clearFlag .reloadPath) key

/-- The transfer stage writes the path, its length and one flag only. -/
theorem exists_run_actor : ∃ flags path pathLength, (run frame counters actor).2.actor =
      { actor with flags := flags, path := path, pathLength := pathLength } ∧
    ControlFlags.SameOutside .reloadPath flags actor.flags := by
  obtain ⟨kept, _⟩ | consumed | ⟨_, _, _, _, stored⟩ := run_actor frame counters actor
  · exact ⟨_, _, _, kept, .refl _ _⟩
  · exact ⟨_, _, _, consumed, .remove _ _⟩
  · exact ⟨_, _, _, stored, .remove _ _⟩

theorem run_persists : actor.Persists (run frame counters actor).2.actor := by
  obtain ⟨flags, path, pathLength, equation, same⟩ := exists_run_actor frame counters actor
  rw [equation]
  exact ⟨rfl, rfl, rfl, rfl, rfl, rfl, rfl, fun _ => rfl, same.widen (by decide)⟩

end TransferStage
end Rotorcraft
