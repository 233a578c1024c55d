import Rotorcraft.Proofs.Faults
import Rotorcraft.Proofs.TimerTrace
import Rotorcraft.Proofs.Turns

/-! # What an actor leaves behind on its way

On its way through the standard pipeline, an actor is first told its codes, those of its timers and then
the one of its altitude. Then the host sees it at the end of its dispatch. The way ends with a refused
division, which is logged, or else with what the transfer has to say.
-/

namespace Rotorcraft

namespace HostCall

/-- What a call hands to the external dispatcher. -/
def forwarded? : HostCall → Option (ActorId × EventCode × UInt8)
  | .forward target code count => some (target, code, count)
  | _ => none

def loaded? : HostCall → Option String
  | .load key => some key
  | _ => none

end HostCall

/-- What an event says was handed to the external dispatcher. -/
def EventKind.forwarded? : EventKind → Option (ActorId × EventCode × UInt8)
  | .forwarded target code count => some (target, code, count)
  | _ => none

namespace Turn

variable (turn : Turn)

def loads : List String :=
  turn.pass.calls.filterMap HostCall.loaded?

/-- What is logged besides the codes that are forwarded. -/
def troubles : List Event :=
  turn.pass.events.filter fun event => event.kind.forwarded?.isNone

end Turn

namespace TimerStage

variable (frame : Frame) (actor : Actor)

theorem run_eq_forward (counters : TimerCounters) :
    (run frame counters actor).2 = frame.forward (advance actor) (codes frame actor) := by
  rw [run, codes]
  cases firedCodes actor <;> rfl

theorem active_advance : (advance actor).hasFlag .attractionActive = actor.hasFlag .attractionActive :=
  (advance_flags actor).intersects_eq (by decide)

end TimerStage

namespace MotionStage

variable (frame : Frame) (actor : Actor)

/-- The codes that the stage forwards to an actor. -/
def codes : List EventCode :=
  if actor.hasFlag .attractionActive then announcement frame actor else []

theorem run_eq_forward (counters : MotionCounters) : (run frame counters actor).2 =
    frame.forward (run frame counters actor).2.actor (codes frame actor) := by
  have flag : (turn actor).hasFlag .attractionActive = actor.hasFlag .attractionActive := rfl
  have same : announcement frame (turn actor) = announcement frame actor := rfl
  simp only [run, codes, flag, same]
  cases actor.hasFlag .attractionActive with
  | false => rfl
  | true => cases frame.turret? (climb frame (turn actor)) <;> rfl

theorem codes_advance : codes frame (TimerStage.advance actor) = codes frame actor := by
  have altitude : (TimerStage.advance actor).altitude = actor.altitude := by
    rw [TimerStage.advance_eq]
  rw [codes, codes, TimerStage.active_advance, announcement, announcement, climb, climb, altitude]

end MotionStage

/-- The codes that an actor is told in a tick. -/
def Actor.codes (frame : Frame) (actor : Actor) : List EventCode :=
  TimerStage.codes frame actor ++ MotionStage.codes frame actor

theorem DispatchStage.run_calls (frame : Frame) (counters : DispatchCounters) (actor : Actor) :
    (run frame counters actor).2.calls =
      branchCalls frame actor ++ [.finalize (run frame counters actor).2.actor] := by
  simp only [run, dispatch]
  split <;> rfl

/-- Codes may be forwarded to an actor in two steps, whatever becomes of it in between. -/
theorem Frame.forward_followedBy (frame : Frame) {actor first second : Actor} (firstId : first.id = actor.id)
    (secondId : second.id = actor.id) (codes others : List EventCode) (rest : Pass) :
    (frame.forward first codes).followedBy ((frame.forward second others).followedBy rest) =
      (frame.forward actor (codes ++ others)).followedBy rest := by
  simp only [Pass.followedBy, forward, firstId, secondId, List.map_append, List.append_assoc]

namespace TransferStage

/-- The ways that a transfer can go. -/
inductive Goes (frame : Frame) (counters : TransferCounters) (actor : Actor) : TransferCounters × Pass → Prop
  | idle (unrequested : actor.hasFlag .reloadPath = false) :
      Goes frame counters actor (counters, .silent actor)
  | keyless (requested : actor.hasFlag .reloadPath = true) (none : actor.pathAsset = none) :
      Goes frame counters actor (counters, .silent (actor.clearFlag .reloadPath))
  | unavailable {key : String} (requested : actor.hasFlag .reloadPath = true)
      (asset : actor.pathAsset = some key) (missing : frame.host.asset? key = none) :
      Goes frame counters actor
        ({ counters with unavailable := counters.unavailable + 1 },
          { actor := actor.clearFlag .reloadPath
            events := [unavailableEvent frame actor key]
            calls := [.load key] })
  | refused {key : String} {bytes : List UInt8} {error : CopyError}
      (requested : actor.hasFlag .reloadPath = true) (asset : actor.pathAsset = some key)
      (loaded : frame.host.asset? key = some bytes) (failed : CountedBuffer.copy bytes actor.path = .error error) :
      Goes frame counters actor
        (counters,
          { actor := actor.clearFlag .reloadPath
            events := [copyFailedEvent frame actor key error]
            calls := [.load key] })
  | stored {key : String} {bytes path : List UInt8} {copied : Nat}
      (requested : actor.hasFlag .reloadPath = true) (asset : actor.pathAsset = some key)
      (loaded : frame.host.asset? key = some bytes)
      (success : CountedBuffer.copy bytes actor.path = .ok (copied, path)) :
      Goes frame counters actor
        ({ counters with bytesCopied := counters.bytesCopied + copied },
          { actor := { actor.clearFlag .reloadPath with path := path, pathLength := UInt64.ofNat copied }
            calls := [.load key] })

theorem goes_run (frame : Frame) (counters : TransferCounters) (actor : Actor) :
    Goes frame counters actor (run frame counters actor) := by
  rw [run]
  cases requested : actor.hasFlag .reloadPath with
  | false => exact .idle requested
  | true =>
    cases asset : actor.pathAsset with
    | none =>
      simp only [Bool.not_true, Bool.false_eq_true, if_false,
        show (actor.clearFlag .reloadPath).pathAsset = none from asset]
      exact .keyless requested asset
    | some key =>
      simp only [Bool.not_true, Bool.false_eq_true, if_false,
        show (actor.clearFlag .reloadPath).pathAsset = some key from asset, load]
      cases loaded : frame.host.asset? key with
      | none => exact .unavailable requested asset loaded
      | some bytes =>
        simp only [store]
        cases outcome : CountedBuffer.copy bytes actor.path with
        | error error =>
          simp only [show CountedBuffer.copy bytes (actor.clearFlag .reloadPath).path = .error error
            from outcome]
          exact .refused requested asset loaded outcome
        | ok result =>
          simp only [show CountedBuffer.copy bytes (actor.clearFlag .reloadPath).path = .ok result
            from outcome]
          exact .stored requested asset loaded outcome

end TransferStage

namespace Pipeline

variable {frame : Frame} {stages : List Stage} (standard : IsStandard stages) (actor : Actor)
include standard

/-- An actor is told its codes and is dispatched, and then it is refused or transferred. -/
theorem run_eq_forward : (run frame stages actor).2 =
    (frame.forward actor (actor.codes frame)).followedBy
      (if (DispatchStage.refusal? frame actor).isSome then
        (DispatchStage.run frame {} (actor.moved frame)).2
      else (DispatchStage.run frame {} (actor.moved frame)).2.followedBy
        (TransferStage.run frame {} (actor.dispatched frame)).2) := by
  have movedId : (actor.moved frame).id = actor.id := by
    obtain ⟨timers, flags, pendingEvent, orientation, altitude, equation, _⟩ := actor.exists_moved frame
    rw [equation]
  have moved : (MotionStage.run frame {} (TimerStage.advance actor)).2.actor = actor.moved frame := by
    rw [Actor.moved, TimerStage.run_actor]
  have motion := MotionStage.run_eq_forward frame (TimerStage.advance actor) {}
  rw [MotionStage.codes_advance, moved] at motion
  have refused := DispatchStage.run_error frame (actor.moved frame) {}
  rw [DispatchStage.refusal?_moved] at refused
  rw [run_standard standard, TimerStage.run_actor, TimerStage.run_eq_forward, motion, refused,
    Option.isSome_map]
  exact frame.forward_followedBy (TimerStage.advance_persists actor).id movedId _ _ _

/-- What a pass logs: the codes first, and last the refusal or the trouble with a path. -/
theorem pass_events : (pass frame stages actor).events =
    (actor.codes frame).map (frame.forwardEvent actor.id) ++
      (match DispatchStage.refusal? frame actor with
      | some fault => [abortEvent frame (run frame stages actor).2.actor (.division fault)]
      | none => (TransferStage.run frame {} (actor.dispatched frame)).2.events) := by
  have whole : (run frame stages actor).2 = _ := run_eq_forward standard actor
  rw [pass, logAbort, run_error standard]
  cases refused : DispatchStage.refusal? frame actor with
  | some fault =>
    have events : (run frame stages actor).2.events =
        (actor.codes frame).map (frame.forwardEvent actor.id) := by
      rw [whole, refused]
      exact List.append_nil _
    exact congrArg (· ++ _) events
  | none =>
    rw [whole, refused]
    rfl

/-- What a pass calls: the codes first, then what the dispatch asks and shows, and last a load. -/
theorem pass_calls_eq : (pass frame stages actor).calls =
    (actor.codes frame).map (frame.forwardCall actor.id) ++
      (DispatchStage.branchCalls frame (actor.moved frame) ++ [.finalize (actor.dispatched frame)] ++
        if (DispatchStage.refusal? frame actor).isSome then []
        else (TransferStage.run frame {} (actor.dispatched frame)).2.calls) := by
  have dispatch := DispatchStage.run_calls frame {} (actor.moved frame)
  rw [pass_calls, run_eq_forward standard actor]
  split
  · rw [List.append_nil]
    exact congrArg _ dispatch
  · simp only [Pass.followedBy, dispatch]
    rfl

theorem loads_pass : Turn.loads ⟨frame, actor, pass frame stages actor⟩ =
    if (DispatchStage.refusal? frame actor).isSome then []
    else (TransferStage.run frame {} (actor.dispatched frame)).2.calls.filterMap HostCall.loaded? := by
  have told : ((actor.codes frame).map (frame.forwardCall actor.id)).filterMap HostCall.loaded? = [] := by
    simp [Frame.forwardCall, HostCall.loaded?]
  have shown : (DispatchStage.branchCalls frame (actor.moved frame) ++
      [HostCall.finalize (actor.dispatched frame)]).filterMap HostCall.loaded? = [] := by
    simp only [DispatchStage.branchCalls]
    split <;> rfl
  rw [Turn.loads, pass_calls_eq standard, List.filterMap_append, told, List.filterMap_append, shown]
  split <;> rfl

/-- What an accepted actor becomes is what the transfer makes of it. -/
theorem run_accepted (accepted : DispatchStage.refusal? frame actor = none) :
    (run frame stages actor).2.actor = (TransferStage.run frame {} (actor.dispatched frame)).2.actor := by
  rw [run_eq_forward standard, accepted]
  rfl

end Pipeline
end Rotorcraft
