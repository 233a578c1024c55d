import Rotorcraft.Proofs.Chronicle
import Rotorcraft.Proofs.Tally

/-! # The accounts of a run

The log and the reports tell what the stages count, and the host is called for it. However an engine was
used, all of these agree with each other and with the turns that its actors have had.
-/

namespace Rotorcraft
namespace Engine

/-- Only ticks change what the stages have counted. -/
theorem stages_perform (engine : Engine) {operation : Operation} (instant : operation.ticks = 0) :
    (engine.perform operation).stages = engine.stages := by
  cases operation with
  | spawn id params =>
    simp only [perform, spawn]
    split <;> rfl
  | despawn id =>
    simp only [perform, despawn]
    split <;> rfl
  | tick answers => cases instant
  | run answers =>
    obtain rfl := List.length_eq_zero_iff.mp instant
    rfl
  | acknowledge id =>
    simp only [perform, acknowledge]
    split <;> rfl
  | attachTurret id handle turret =>
    simp only [perform, attachTurret]
    split <;> rfl
  | _ => rfl

/-- However an engine was used, its stages have counted the turns of its actors. -/
theorem tally_performAll {config : Config} {start : Engine} (new : Engine.new config = .ok start)
    (operations : List Operation) : ∃ counters : Counters,
      (start.performAll operations).stages = counters.stages ∧
        Tally counters ((start.moments operations).flatMap Moment.turns) := by
  refine moments_induction
    (P := fun past engine => ∃ counters : Counters, engine.stages = counters.stages ∧
      Tally counters (past.flatMap Moment.turns)) ?_ ?_ ?_
  · refine ⟨{}, ?_, .initial⟩
    rw [eq_of_new new]
    rfl
  · rintro past moment ⟨counters, stages, tally⟩
    rw [List.flatMap_append, List.flatMap_singleton]
    exact tally.ticked stages
  · rintro earlier operation later - instant ⟨counters, stages, tally⟩
    exact ⟨counters, (stages_perform _ instant).trans stages, tally⟩

/-- What a turn logs is not about comings and goings. -/
theorem not_isPassage_of_mem {moment : Moment} (standard : moment.engine.IsStandard) {event : Event}
    (member : event ∈ moment.turns.flatMap (·.pass.events)) : event.kind.isPassage = false := by
  obtain ⟨turn, taken, logged⟩ := List.mem_flatMap.mp member
  rw [(Moment.mem_turns taken).2.1] at logged
  have concerns := Pipeline.pass_concerns turn.frame turn.before standard.isHosted
  obtain ⟨_, _, spawned, despawned⟩ := concerns.events event logged
  cases kind : event.kind with
  | spawned id => simp [kind, EventKind.spawned?] at spawned
  | despawned id => simp [kind, EventKind.despawned?] at despawned
  | _ => rfl

/-- But for comings and goings, an unlimited log holds what was logged in turns. -/
theorem log_performAll {config : Config} {start : Engine} (new : Engine.new config = .ok start)
    (unlimited : config.maxEvents = 0) (operations : List Operation) :
    ((start.performAll operations).log.toList.filter fun event => !event.kind.isPassage) =
      ((start.moments operations).flatMap Moment.turns).flatMap (·.pass.events) := by
  suffices all : (start.performAll operations).IsStandard ∧ (start.performAll operations).log.capacity = 0 ∧
      ((start.performAll operations).log.toList.filter fun event => !event.kind.isPassage) =
        ((start.moments operations).flatMap Moment.turns).flatMap (·.pass.events) from all.2.2
  refine moments_induction
    (P := fun past engine => engine.IsStandard ∧ engine.log.capacity = 0 ∧
      (engine.log.toList.filter fun event => !event.kind.isPassage) =
        (past.flatMap Moment.turns).flatMap (·.pass.events)) ?_ ?_ ?_
  · rw [eq_of_new new]
    exact ⟨rfl, unlimited, rfl⟩
  · rintro past moment ⟨standard, empty, logged⟩
    refine ⟨standard.tickWith moment.answers, (tickWith_capacity ..).trans empty, ?_⟩
    rw [moment.log_ticked, EventLog.toList_append empty, List.filter_append, logged, List.flatMap_append,
      List.flatMap_append, List.flatMap_singleton]
    refine congrArg _ (List.filter_eq_self.mpr fun event member => ?_)
    rw [not_isPassage_of_mem standard member]
    rfl
  · rintro earlier operation later - instant ⟨standard, empty, logged⟩
    have continues := continues_perform (start.performAll earlier) operation
    refine ⟨continues.standard standard, continues.capacity.trans empty, ?_⟩
    have pushed (event : Event) : ((start.performAll earlier).log.push event).toList =
        (start.performAll earlier).log.toList ++ [event] := EventLog.toList_append empty [event]
    cases writes_perform (start.performAll earlier) operation with
    | quiet _ log _ _ => rw [log, logged]
    | spawned text log _ _ =>
      rw [log, pushed, List.filter_append, logged]
      exact List.append_nil _
    | despawned _ text log _ _ =>
      rw [log, pushed, List.filter_append, logged]
      exact List.append_nil _
    | ticked answers => cases instant
    | ran answers =>
      obtain rfl := List.length_eq_zero_iff.mp instant
      exact logged

/-- The counters of the stages, the log, the reports and the calls to the host of the same ticks agree. -/
structure Balanced (counters : Counters) (moments : List Moment) (log : List Event)
    (reports : List TickReport) (calls : List HostCall) : Prop where
  /-- The dispatcher is handed what the log says, call for call. -/
  handed : calls.filterMap HostCall.forwarded? = log.filterMap (·.kind.forwarded?)
  /-- Codes are forwarded when timers fire, when a latched code is due, and when an altitude settles. -/
  forwarded : (log.filterMap (·.kind.forwarded?)).length =
    counters.timers.fired + counters.timers.rebroadcasts +
      (moments.flatMap Moment.turns).countP Turn.arrives
  /-- Every live actor is dispatched or refused in every tick. -/
  dispatched : counters.dispatch.dispatched + counters.dispatch.faults =
    (moments.map fun moment => moment.engine.actors.length).sum
  /-- And it is shown to the host once. -/
  shown : counters.dispatch.dispatched + counters.dispatch.faults =
    (calls.filterMap HostCall.finalized?).length
  reported : counters.dispatch.faults = (reports.map fun report => report.faults.length).sum
  refused : counters.dispatch.faults = log.countP (·.kind.isDivisionFault)
  fallbacks : counters.dispatch.fallbacks = (moments.flatMap Moment.turns).countP Turn.fallsBack
  skippedAims : counters.motion.skippedAims = (moments.flatMap Moment.turns).countP Turn.skipsAim
  unavailable : counters.transfer.unavailable = log.countP (·.kind.isUnavailable)
  /-- What was copied is the path of an actor after its turn. -/
  bytesCopied : counters.transfer.bytesCopied =
    (((moments.flatMap Moment.turns).filter Turn.stores).map fun turn => turn.after.pathLength.toNat).sum

/-- What is read off events that are not about comings and goings is read off the turns. -/
theorem countP_log {log : List Event} {turns : List Turn} {trouble : EventKind → Bool}
    (logged : (log.filter fun event => !event.kind.isPassage) = turns.flatMap (·.pass.events))
    (passes : ∀ kind, trouble kind = true → kind.isPassage = false) :
    log.countP (fun event => trouble event.kind) =
      (turns.flatMap (·.pass.events)).countP fun event => trouble event.kind := by
  rw [← logged, List.countP_filter]
  refine List.countP_congr fun event _ => ?_
  constructor
  · intro troubled
    rw [troubled, passes _ troubled]
    rfl
  · intro both
    exact (Bool.and_eq_true_iff.mp both).1

theorem forwarded_log {log : List Event} {turns : List Turn}
    (logged : (log.filter fun event => !event.kind.isPassage) = turns.flatMap (·.pass.events)) :
    log.filterMap (·.kind.forwarded?) =
      (turns.flatMap (·.pass.events)).filterMap (·.kind.forwarded?) := by
  rw [← logged, List.filterMap_filter]
  refine List.filterMap_congr fun event _ => ?_
  cases event.kind <;> rfl

section
variable {moments : List Moment} (standard : ∀ moment ∈ moments, moment.engine.IsStandard)
include standard

/-- The ticks of standard stages forward to the dispatcher what they log. -/
theorem forwarded_calls : (moments.flatMap (·.ticked.calls)).filterMap HostCall.forwarded? =
    ((moments.flatMap Moment.turns).flatMap (·.pass.events)).filterMap (·.kind.forwarded?) := by
  simp only [Moment.calls_ticked]
  rw [← List.flatMap_assoc, List.filterMap_flatMap, List.filterMap_flatMap]
  refine List.flatMap_congr fun turn taken => ?_
  obtain ⟨moment, listed, taken⟩ := List.mem_flatMap.mp taken
  rw [(Moment.mem_turns taken).2.1, Pipeline.forwarded_calls (standard moment listed),
    Pipeline.forwarded_events (standard moment listed)]

/-- The ticks of standard stages show every actor to the host once. -/
theorem length_finalized : ((moments.flatMap (·.ticked.calls)).filterMap HostCall.finalized?).length =
    (moments.map fun moment => moment.engine.actors.length).sum := by
  rw [List.filterMap_flatMap, List.length_flatMap]
  refine congrArg List.sum (List.map_congr_left fun moment listed => ?_)
  have shown := finalized_tickWith (standard moment listed) moment.answers
  rw [Moment.ticked, shown, List.length_map, framed, List.length_mapIdx]
  rfl

end

theorem length_turns (moments : List Moment) : (moments.flatMap Moment.turns).length =
    (moments.map fun moment => moment.engine.actors.length).sum := by
  simp only [List.length_flatMap, Moment.length_turns]

theorem length_faults (moments : List Moment) :
    (moments.map fun moment => moment.ticked.report.faults.length).sum =
      (moments.flatMap Moment.turns).countP fun turn => turn.pass.error.isSome := by
  rw [List.countP_flatMap]
  refine congrArg List.sum (List.map_congr_left fun moment _ => ?_)
  rw [moment.faults_ticked, List.length_filterMap_eq_countP]
  simp only [Option.isSome_map, Function.comp_apply]

/-- However an engine with an unlimited log was used, its accounts balance. -/
theorem accounts_balance {config : Config} {start : Engine} (new : Engine.new config = .ok start)
    (unlimited : config.maxEvents = 0) (operations : List Operation) :
    ∃ counters : Counters, (start.performAll operations).stages = counters.stages ∧
      Balanced counters (start.moments operations) (start.performAll operations).log.toList
        ((start.replies operations).flatMap Reply.reports)
        ((start.replies operations).flatMap Reply.calls) := by
  obtain ⟨counters, stages, tally⟩ := tally_performAll new operations
  have logged := log_performAll new unlimited operations
  have standard : ∀ moment ∈ start.moments operations, moment.engine.IsStandard := fun moment member =>
    standard_of_mem_moments (standard_of_new new) member
  refine ⟨counters, stages, ?_⟩
  rw [reports_replies, calls_replies]
  constructor
  · rw [forwarded_log logged, forwarded_calls standard]
  · rw [forwarded_log logged, tally.codes]
  · rw [tally.dispatched, length_turns]
  · rw [tally.dispatched, length_turns, length_finalized standard]
  · rw [List.map_map, tally.faults, ← length_faults]
    rfl
  · rw [tally.refusals, countP_log logged]
    intro kind troubled
    cases kind with
    | divisionFault _ _ => rfl
    | _ => cases troubled
  · exact tally.fallbacks
  · exact tally.skippedAims
  · rw [tally.unavailable, countP_log logged]
    intro kind troubled
    cases kind with
    | assetUnavailable _ _ => rfl
    | _ => cases troubled
  · exact tally.bytesCopied

/-- A pursuit that is refused twice, beside an actor of an unknown mode that climbs without a turret, fires
a timer, and loads a path. -/
theorem accounts_balance_of_mixed_run : ∃ start,
    Engine.new { pursuitDivisor := 0, attractionStep := 30000, periodicPeriod := 2 } = .ok start ∧
    let host : Host := { asset? := fun _ => some [2, 0, 0, 0, 7, 8] }
    let operations : List Operation :=
      [.spawn ⟨.ofNat 1⟩ { name := "chaser", mode := 1 },
        .spawn ⟨.ofNat 2⟩
          { name := "gunship"
            mode := 5
            flags := ControlFlags.attractionActive.insert .reloadPath
            altitude := ⟨0, 100⟩
            timers := { fire := some 1 }
            pathAsset := some "route" },
        .run [fun _ => host, fun _ => host], .despawn ⟨.ofNat 1⟩, .tick fun _ => {}]
    let engine := start.performAll operations
    engine.timerCounters? = some ⟨1, 1⟩ ∧ engine.motionCounters? = some ⟨3⟩ ∧
      engine.dispatchCounters? = some ⟨3, 2, 3⟩ ∧ engine.transferCounters? = some ⟨2, 0⟩ ∧
      ∃ counters : Counters, engine.stages = counters.stages ∧
        Balanced counters (start.moments operations) engine.log.toList
          ((start.replies operations).flatMap Reply.reports)
          ((start.replies operations).flatMap Reply.calls) :=
  ⟨_, rfl, by decide, by decide, by decide, by decide,
    @accounts_balance { pursuitDivisor := 0, attractionStep := 30000, periodicPeriod := 2 } _ rfl rfl _⟩

end Engine
end Rotorcraft
