import Rotorcraft.Proofs.Copies
import Rotorcraft.Proofs.Finish
import Rotorcraft.Proofs.Lives
import Rotorcraft.Proofs.Ownership
import Rotorcraft.Proofs.Proceedings

/-! # A path is loaded once

A request to load a path waits as long as the divisions of its actor are refused. The first turn that goes
through consumes it, whatever comes of the load: the path is written from its front or left as it is, and
nobody asks for the asset again. `ReloadedOnce` says so of all turns of an actor.
-/

namespace Rotorcraft

/-- The bytes of an asset are a counted buffer, of which `content` belongs to whole units, is there and
fits a path. -/
def CountedBuffer.Holds (bytes content : List UInt8) : Prop :=
  ∃ length payload, header? bytes = some (length, payload) ∧ evenPart length ≤ payload.length ∧
    evenPart length ≤ pathCapacity ∧ content = payload.take (evenPart length)

namespace Turn

variable (turn : Turn)

def KeepsPath : Prop :=
  turn.after.path = turn.before.path ∧ turn.after.pathLength = turn.before.pathLength

/-- A division is refused, and the request stays pending. -/
structure Waits : Prop where
  refused : turn.pass.error.isSome
  pending : turn.before.hasFlag .reloadPath = true ∧ turn.after.hasFlag .reloadPath = true
  path : turn.KeepsPath
  loads : turn.loads = []

/-- There is no request. -/
structure Rests : Prop where
  idle : turn.before.hasFlag .reloadPath = false ∧ turn.after.hasFlag .reloadPath = false
  path : turn.KeepsPath
  loads : turn.loads = []

/-- The path is loaded from the asset of a key. -/
structure Loads (key : String) : Prop where
  /-- The host is asked once. -/
  loads : turn.loads = [key]
  /-- A path that the asset holds is written over the front of the buffer, and nothing is logged. -/
  stored : ∀ bytes content, turn.frame.host.asset? key = some bytes →
    CountedBuffer.Holds bytes content →
    turn.after.path = content ++ turn.before.path.drop content.length ∧
      turn.after.pathLength.toNat = content.length ∧ turn.after.pathBytes = content ∧ turn.troubles = []
  /-- Bytes that do not hold one are logged. -/
  rejected : ∀ bytes, turn.frame.host.asset? key = some bytes →
    (∀ content, ¬ CountedBuffer.Holds bytes content) →
    turn.KeepsPath ∧ turn.troubles.map (·.kind) = [.copyFailed turn.before.id key]
  /-- And so is an asset that is missing. -/
  missing : turn.frame.host.asset? key = none →
    turn.KeepsPath ∧ turn.troubles.map (·.kind) = [.assetUnavailable turn.before.id key]

/-- The request is consumed. -/
structure Reloads (asset : Option String) : Prop where
  accepted : turn.pass.error = none
  consumed : turn.before.hasFlag .reloadPath = true ∧ turn.after.hasFlag .reloadPath = false
  capacity : turn.before.path.length = pathCapacity
  /-- Without a key, the request is all that changes after the dispatch. -/
  keyless : asset = none → turn.loads = [] ∧ turn.troubles = [] ∧
    turn.after = (turn.before.dispatched turn.frame).clearFlag .reloadPath
  keyed : ∀ key, asset = some key → turn.Loads key

end Turn

/-- The request of an actor waits, and then it is consumed once. -/
inductive ReloadedOnce (asset : Option String) : List Turn → Prop
  | pending {turns : List Turn} (waiting : ∀ turn ∈ turns, turn.Waits) : ReloadedOnce asset turns
  | consumed {before after : List Turn} {turn : Turn} (waiting : ∀ turn ∈ before, turn.Waits)
      (now : turn.Reloads asset) (resting : ∀ turn ∈ after, turn.Rests) :
      ReloadedOnce asset (before ++ turn :: after)

/-- The stages before the transfer leave everything that it reads alone. -/
theorem Actor.exists_dispatched (frame : Frame) (actor : Actor) :
    ∃ timers flags pendingEvent orientation altitude derived,
      actor.dispatched frame =
        { actor with
          timers := timers
          flags := flags
          pendingEvent := pendingEvent
          orientation := orientation
          altitude := altitude
          derived := derived } ∧
      flags.intersects .reloadPath = actor.flags.intersects .reloadPath := by
  obtain ⟨timers, moved, pendingEvent, orientation, altitude, equation, same⟩ := actor.exists_moved frame
  obtain ⟨flags, derived, dispatched, outside⟩ :=
    DispatchStage.exists_run_actor frame {} (actor.moved frame)
  refine ⟨timers, flags, pendingEvent, orientation, altitude, derived, ?_, ?_⟩
  · rw [Actor.dispatched, dispatched, equation]
  · rw [equation] at outside
    exact (outside.intersects_eq (by decide)).trans (same.intersects_eq (by decide))

namespace Pipeline

variable {frame : Frame} {stages : List Stage} (standard : IsStandard stages) {actor : Actor}
include standard

/-- Whatever else a transfer logs is trouble. -/
theorem troubles_accepted (accepted : DispatchStage.refusal? frame actor = none) :
    Turn.troubles ⟨frame, actor, pass frame stages actor⟩ =
      (TransferStage.run frame {} (actor.dispatched frame)).2.events := by
  have told : ((actor.codes frame).map (frame.forwardEvent actor.id)).filter
      (fun event => event.kind.forwarded?.isNone) = [] := by
    simp [Frame.forwardEvent, Frame.event, EventKind.forwarded?]
  rw [Turn.troubles, pass_events standard, accepted, List.filter_append, told, List.nil_append]
  have goes := TransferStage.goes_run frame {} (actor.dispatched frame)
  cases outcome : TransferStage.run frame {} (actor.dispatched frame)
  rw [outcome] at goes
  cases goes <;> rfl

end Pipeline

namespace Turn

section
variable {frame : Frame} {stages : List Stage} (standard : Pipeline.IsStandard stages) {actor : Actor}
include standard

/-- A refused turn leaves the request and the path alone. -/
theorem kept_of_refused {fault : DivisionFault}
    (refused : DispatchStage.refusal? frame actor = some fault) :
    let turn : Turn := ⟨frame, actor, Pipeline.pass frame stages actor⟩
    turn.after.hasFlag .reloadPath = actor.hasFlag .reloadPath ∧ turn.KeepsPath ∧ turn.loads = [] := by
  intro turn
  have after : turn.after = (actor.moved frame).clearFlag .divisionSafe :=
    (Pipeline.pass_actor ..).trans (Pipeline.run_refused standard refused)
  obtain ⟨_, path, pathLength, flags⟩ := actor.untouched_moved frame
  rw [KeepsPath, after]
  refine ⟨flags .reloadPath (by decide), ⟨path, pathLength⟩, ?_⟩
  rw [Pipeline.loads_pass standard, refused]
  rfl

theorem waits_of_refused {fault : DivisionFault}
    (refused : DispatchStage.refusal? frame actor = some fault)
    (requested : actor.hasFlag .reloadPath = true) :
    Turn.Waits ⟨frame, actor, Pipeline.pass frame stages actor⟩ := by
  obtain ⟨flag, path, loads⟩ := kept_of_refused standard refused
  refine ⟨?_, ⟨requested, flag.trans requested⟩, path, loads⟩
  rw [Pipeline.pass_error, Pipeline.run_error standard, refused]
  rfl

/-- Without a request there is nothing to do. -/
theorem rests_of_idle (idle : actor.hasFlag .reloadPath = false) :
    Turn.Rests ⟨frame, actor, Pipeline.pass frame stages actor⟩ := by
  cases refused : DispatchStage.refusal? frame actor with
  | some fault =>
    obtain ⟨flag, path, loads⟩ := kept_of_refused standard refused
    exact ⟨⟨idle, flag.trans idle⟩, path, loads⟩
  | none =>
    obtain ⟨_, _, _, _, _, _, equation, flag⟩ := actor.exists_dispatched frame
    have still : (actor.dispatched frame).hasFlag .reloadPath = false := by
      rw [equation]
      exact flag.trans idle
    have transferred : TransferStage.run frame {} (actor.dispatched frame) =
        ({}, .silent (actor.dispatched frame)) := by
      rw [TransferStage.run, still]
      rfl
    have after : Turn.after ⟨frame, actor, Pipeline.pass frame stages actor⟩ = actor.dispatched frame := by
      rw [Turn.after, Pipeline.pass_actor, Pipeline.run_accepted standard actor refused, transferred]
      rfl
    refine ⟨⟨idle, ?_⟩, ?_, ?_⟩
    · rw [after, still]
    · rw [KeepsPath, after, equation]
      exact ⟨rfl, rfl⟩
    · rw [Pipeline.loads_pass standard, refused, transferred]
      rfl

end

/-- A turn whose dispatch has left an actor with the same identifier and path, of which the rest is told by
its transfer. -/
structure Transfers (turn : Turn) (dispatched : Actor) (transferred : Pass) : Prop where
  id : dispatched.id = turn.before.id
  path : dispatched.path = turn.before.path
  pathLength : dispatched.pathLength = turn.before.pathLength
  after : turn.after = transferred.actor
  loads : turn.loads = transferred.calls.filterMap HostCall.loaded?
  troubles : turn.troubles = transferred.events

/-- A transfer asks for the asset of a key once, and writes its path or tells why not. -/
theorem loads_of_transfers {turn : Turn} {dispatched : Actor} {key : String}
    (requested : dispatched.hasFlag .reloadPath = true) (asset : dispatched.pathAsset = some key)
    (capacity : dispatched.path.length = pathCapacity)
    (transfers : turn.Transfers dispatched (TransferStage.run turn.frame {} dispatched).2) :
    turn.Loads key := by
  obtain ⟨id, path, pathLength, after, loads, troubles⟩ := transfers
  have goes := TransferStage.goes_run turn.frame {} dispatched
  cases outcome : TransferStage.run turn.frame {} dispatched
  rw [outcome] at goes after loads troubles
  cases goes with
  | idle unrequested =>
    rw [requested] at unrequested
    cases unrequested
  | keyless _ none =>
    rw [asset] at none
    cases none
  | unavailable _ own missing =>
    obtain rfl := Option.some.inj (own.symm.trans asset)
    refine ⟨loads, fun bytes content loaded => ?_, fun bytes loaded => ?_, fun _ => ⟨⟨?_, ?_⟩, ?_⟩⟩
    · rw [missing] at loaded
      cases loaded
    · rw [missing] at loaded
      cases loaded
    · rw [after, ← path]
      rfl
    · rw [after, ← pathLength]
      rfl
    · rw [troubles, ← id]
      rfl
  | @refused _ given _ _ own found failed =>
    obtain rfl := Option.some.inj (own.symm.trans asset)
    refine ⟨loads, fun bytes content loaded holds => ?_, fun bytes loaded _ => ⟨⟨?_, ?_⟩, ?_⟩,
      fun missing => ?_⟩
    · obtain rfl := Option.some.inj (found.symm.trans loaded)
      obtain ⟨length, payload, header, sent, room, rfl⟩ := holds
      rw [← capacity] at room
      rw [CountedBuffer.copy_eq_ok_iff.mpr ⟨length, payload, header, sent, room, rfl, rfl⟩] at failed
      cases failed
    · rw [after, ← path]
      rfl
    · rw [after, ← pathLength]
      rfl
    · rw [troubles, ← id]
      rfl
    · rw [found] at missing
      cases missing
  | @stored _ given written copied _ own found success =>
    obtain rfl := Option.some.inj (own.symm.trans asset)
    obtain ⟨length, payload, header, sent, room, rfl, rfl⟩ := CountedBuffer.copy_eq_ok_iff.mp success
    rw [capacity] at room
    refine ⟨loads, fun bytes content loaded holds => ?_, fun bytes loaded none => ?_, fun missing => ?_⟩
    · obtain rfl := Option.some.inj (found.symm.trans loaded)
      obtain ⟨_, _, same, _, _, rfl⟩ := holds
      rw [header] at same
      obtain ⟨rfl, rfl⟩ := Prod.mk.inj (Option.some.inj same)
      have size : (payload.take (CountedBuffer.evenPart length)).length = CountedBuffer.evenPart length :=
        List.length_take_of_le sent
      have counted := CountedBuffer.toNat_copied success
      rw [Actor.pathBytes, after, size, ← path]
      refine ⟨rfl, counted, ?_, troubles⟩
      simp only [counted]
      exact List.take_left' size
    · obtain rfl := Option.some.inj (found.symm.trans loaded)
      exact absurd ⟨length, payload, header, sent, room, rfl⟩ (none _)
    · rw [found] at missing
      cases missing

/-- A request is consumed when nothing is refused. -/
theorem reloads_of_accepted {frame : Frame} {stages : List Stage}
    (standard : Pipeline.IsStandard stages) {actor : Actor}
    (accepted : DispatchStage.refusal? frame actor = none)
    (requested : actor.hasFlag .reloadPath = true) (capacity : actor.path.length = pathCapacity) :
    let turn : Turn := ⟨frame, actor, Pipeline.pass frame stages actor⟩
    turn.Reloads actor.pathAsset := by
  intro turn
  have passed : turn.pass.error = none := by
    rw [Pipeline.pass_error, Pipeline.run_error standard, accepted]
    rfl
  have after : turn.after = (TransferStage.run frame {} (actor.dispatched frame)).2.actor :=
    (Pipeline.pass_actor ..).trans (Pipeline.run_accepted standard actor accepted)
  have loads : turn.loads = _ := Pipeline.loads_pass standard actor
  rw [accepted] at loads
  obtain ⟨_, _, _, _, _, _, equation, flag⟩ := actor.exists_dispatched frame
  have pending : (actor.dispatched frame).hasFlag .reloadPath = true := by
    rw [equation]
    exact flag.trans requested
  have own : (actor.dispatched frame).pathAsset = actor.pathAsset := by rw [equation]
  have transfers : turn.Transfers (actor.dispatched frame)
      (TransferStage.run frame {} (actor.dispatched frame)).2 := by
    refine ⟨?_, ?_, ?_, after, loads, Pipeline.troubles_accepted standard accepted⟩
    all_goals rw [equation]
  refine ⟨passed, ⟨requested, ?_⟩, capacity, fun keyless => ?_, fun key keyed => ?_⟩
  · rw [after]
    exact TransferStage.reloadPath_run frame {} _
  · have transferred : TransferStage.run frame {} (actor.dispatched frame) =
        ({}, .silent ((actor.dispatched frame).clearFlag .reloadPath)) := by
      rw [TransferStage.run, pending]
      simp only [Bool.not_true, Bool.false_eq_true, if_false,
        show ((actor.dispatched frame).clearFlag .reloadPath).pathAsset = none from own.trans keyless]
    rw [transferred] at transfers
    exact ⟨transfers.loads, transfers.troubles, transfers.after⟩
  · refine loads_of_transfers pending (own.trans keyed) ?_ transfers
    rw [equation]
    exact capacity

end Turn

/-- The record of an actor after its turns: the request is still pending, or one turn has consumed it. -/
structure Actor.Requests (actor : Actor) (asset : Option String) (past : List Turn) : Prop where
  capacity : actor.path.length = pathCapacity
  own : actor.pathAsset = asset
  phase : (actor.hasFlag .reloadPath = true ∧ ∀ turn ∈ past, turn.Waits) ∨
    (actor.hasFlag .reloadPath = false ∧ ∃ before turn after, past = before ++ turn :: after ∧
      (∀ turn ∈ before, turn.Waits) ∧ turn.Reloads asset ∧ ∀ turn ∈ after, turn.Rests)

namespace Actor.Requests

variable {actor : Actor} {asset : Option String} {past : List Turn}

theorem reloadedOnce (requests : actor.Requests asset past) : ReloadedOnce asset past := by
  obtain ⟨_, waiting⟩ | ⟨_, before, turn, after, rfl, waiting, now, resting⟩ := requests.phase
  · exact .pending waiting
  · exact .consumed waiting now resting

/-- The request is pending if all turns so far were refused. -/
theorem pending_iff (requests : actor.Requests asset past) :
    actor.hasFlag .reloadPath = true ↔ ∀ turn ∈ past, turn.pass.error.isSome := by
  obtain ⟨pending, waiting⟩ | ⟨consumed, before, turn, after, rfl, _, now, _⟩ := requests.phase
  · exact ⟨fun _ turn member => (waiting turn member).refused, fun _ => pending⟩
  · constructor
    · intro pending
      rw [consumed] at pending
      cases pending
    · intro refused
      have failed := refused turn (by simp)
      rw [now.accepted] at failed
      cases failed

theorem spawned {params : SpawnParams} (requested : params.flags.intersects .reloadPath = true)
    (id : ActorId) : (params.toActor id).Requests params.pathAsset [] := by
  have pending : (params.flags.setSubMode params.subMode).intersects .reloadPath = true :=
    ((ControlFlags.SameOutside.setSubMode _ _).intersects_eq (by decide)).trans requested
  exact ⟨rfl, rfl, .inl ⟨pending, by simp⟩⟩

/-- A change of an actor that leaves its path and its request alone. -/
theorem congr (requests : actor.Requests asset past) {other : Actor} (path : other.path = actor.path)
    (key : other.pathAsset = actor.pathAsset)
    (flag : other.hasFlag .reloadPath = actor.hasFlag .reloadPath) : other.Requests asset past := by
  obtain ⟨capacity, own, phase⟩ := requests
  rw [← flag] at phase
  exact ⟨path ▸ capacity, key.trans own, phase⟩

/-- A turn waits, consumes the request, or has none. -/
theorem turn (requests : actor.Requests asset past) {stages : List Stage}
    (standard : Pipeline.IsStandard stages) (frame : Frame) :
    let turn : Turn := ⟨frame, actor, Pipeline.pass frame stages actor⟩
    turn.after.Requests asset (past ++ [turn]) := by
  intro turn
  have after : turn.after = (Pipeline.run frame stages actor).2.actor := Pipeline.pass_actor ..
  have confined : actor.Confined turn.after := after ▸ Pipeline.run_confined standard actor
  obtain ⟨capacity, own, phase⟩ := requests
  refine ⟨confined.capacity.trans capacity, confined.persists.pathAsset.trans own, ?_⟩
  obtain ⟨pending, waiting⟩ | ⟨idle, before, first, later, rfl, waiting, now, resting⟩ := phase
  · cases refused : DispatchStage.refusal? frame actor with
    | some fault =>
      have waits : turn.Waits := Turn.waits_of_refused standard refused pending
      exact .inl ⟨waits.pending.2,
        List.forall_mem_append.mpr ⟨waiting, List.forall_mem_singleton.mpr waits⟩⟩
    | none =>
      have reloads : turn.Reloads actor.pathAsset := Turn.reloads_of_accepted standard refused pending capacity
      rw [own] at reloads
      exact .inr ⟨reloads.consumed.2, past, turn, [], rfl, waiting, reloads, by simp⟩
  · have rests : turn.Rests := Turn.rests_of_idle standard idle
    have resting : ∀ other ∈ later ++ [turn], other.Rests :=
      List.forall_mem_append.mpr ⟨resting, List.forall_mem_singleton.mpr rests⟩
    exact .inr ⟨rests.idle.2, before, first, later ++ [turn], by simp, waiting, now, resting⟩

end Actor.Requests

namespace Engine

/-- The request of an actor that nobody rewrites directly waits while its divisions are refused, and the
first turn that goes through consumes it once and for all. It is pending as long as all turns were
refused. -/
theorem path_reloaded_once {config : Config} {start : Engine} (new : Engine.new config = .ok start)
    {id : ActorId} {params : SpawnParams} (requested : params.flags.intersects .reloadPath = true)
    {before later : List Operation} (fresh : (drawnIds (before ++ .spawn id params :: later)).Nodup)
    (unedited : ∀ operation ∈ later, operation.edited? ≠ some id) :
    let operations := before ++ .spawn id params :: later
    let turns := turnsOf id (start.moments operations)
    ReloadedOnce params.pathAsset turns ∧
      ∀ actor ∈ (start.performAll operations).actors, actor.id = id →
        (actor.hasFlag .reloadPath = true ↔ ∀ turn ∈ turns, turn.pass.error.isSome) := by
  intro operations turns
  have lives := life_induction (Q := ReloadedOnce params.pathAsset)
    (P := fun past actor => actor.Requests params.pathAsset past) new fresh unedited
    (.pending (by simp)) (.spawned requested id) ?_ ?_ ?_
  · exact ⟨lives.turns, fun actor live same => (lives.record actor live same).pending_iff⟩
  · intro past frame actor _ _ _ requests
    have next := requests.turn Pipeline.isStandard_standard frame
    exact ⟨next.reloadedOnce, next⟩
  · intro past actor requests
    exact requests.congr rfl rfl ((ControlFlags.SameOutside.remove _ _).intersects_eq (by decide))
  · intro past actor handle requests
    exact requests.congr rfl rfl rfl

/-- An actor whose division is refused once, until the target moves, and which then loads a path of six
bytes from an asset of eight. -/
theorem path_reloaded_once_after_refusal : ∃ start, Engine.new { pursuitDivisor := -1 } = .ok start ∧
    let host : Host := { asset? := fun _ => some [7, 0, 0, 0, 1, 2, 3, 4, 5, 6, 7, 8] }
    let params : SpawnParams :=
      { name := "chaser", mode := 1, flags := .reloadPath, position := { x := -1 },
        pathAsset := some "route" }
    let later : List Operation :=
      [.setReference { primaryTarget := { x := Int32.maxValue } }, .tick fun _ => host,
        .setReference {}, .run [fun _ => host, fun _ => host]]
    let operations := [] ++ .spawn ⟨.ofNat 1⟩ params :: later
    let turns := turnsOf ⟨.ofNat 1⟩ (start.moments operations)
    params.flags.intersects .reloadPath = true ∧
      turns.map (·.pass.error.isSome) = [true, false, false] ∧
      turns.map (·.loads) = [[], ["route"], []] ∧
      (start.performAll operations).actors.map (·.pathBytes) = [[1, 2, 3, 4, 5, 6]] ∧
      ReloadedOnce (some "route") turns := by
  refine ⟨_, rfl, ?_⟩
  intro host params later operations turns
  refine ⟨by decide, by decide, by decide, by decide, ?_⟩
  exact (@path_reloaded_once { pursuitDivisor := -1 } _ rfl ⟨.ofNat 1⟩ params (by decide) [] later
    (by decide) (by decide)).1

end Engine
end Rotorcraft
