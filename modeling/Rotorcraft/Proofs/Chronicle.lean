import Rotorcraft.Proofs.History

/-! # The history that an engine keeps

An engine with the standard pipeline and an unlimited log keeps a history: `Engine.Chronicled` holds of a
new engine, and every operation keeps it, as long as the identifiers that are drawn are fresh and the
clock does not run over.
-/

namespace Rotorcraft
namespace Engine

/-- An engine whose log is its history after `count` ticks, during which identifiers were drawn. -/
structure Chronicled (engine : Engine) (drawn : List ActorId) (count : Nat) : Prop where
  standard : engine.IsStandard
  unlimited : engine.log.capacity = 0
  clock : engine.clock.tick = UInt64.ofNat count
  drawn : (spawnedIds engine.log.toList).Sublist drawn
  history : History engine.clock.tick engine.ids engine.log.toList

/-- The events of a tick are of this tick, about live actors, and none of them says that an actor came
or went. -/
theorem IsStandard.concerns_of_mem_passes {engine : Engine} (standard : engine.IsStandard)
    {answers : HostAnswers} {event : Event}
    (member : event ∈ (engine.passes answers).flatMap (·.events)) :
    ∃ actor ∈ engine.actors, ∃ host, event.Concerns (engine.advanced.frame host) actor.id := by
  obtain ⟨pass, listed, member⟩ := List.mem_flatMap.mp member
  obtain ⟨⟨frame, actor⟩, entered, rfl⟩ := List.mem_map.mp listed
  obtain ⟨live, host, rfl⟩ := mem_framed entered
  have concerns := Pipeline.pass_concerns (engine.advanced.frame host) actor standard.isHosted
  exact ⟨actor, live, host, concerns.events event member⟩

theorem chronicled_of_new {config : Config} {start : Engine} (new : Engine.new config = .ok start)
    (unlimited : config.maxEvents = 0) : start.Chronicled [] 0 := by
  refine ⟨standard_of_new new, ?_, ?_, ?_, ?_⟩
  all_goals rw [eq_of_new new]
  · exact unlimited
  · rfl
  · exact .slnil
  · exact .empty

/-- What an operation writes into the log and what it does to the clock and the live actors. -/
inductive Writes (engine : Engine) : Operation → Engine → Prop
  | quiet {operation : Operation} {after : Engine} (instant : operation.ticks = 0)
      (log : after.log = engine.log) (clock : after.clock = engine.clock)
      (ids : after.ids = engine.ids) : Writes engine operation after
  | spawned {id : ActorId} {params : SpawnParams} {after : Engine} (text : String)
      (log : after.log = engine.log.push ⟨engine.clock.tick, .spawned id, text⟩)
      (clock : after.clock = engine.clock) (ids : after.ids = engine.ids ++ [id]) :
      Writes engine (.spawn id params) after
  | despawned {id : ActorId} {after : Engine} (alive : id ∈ engine.ids) (text : String)
      (log : after.log = engine.log.push ⟨engine.clock.tick, .despawned id, text⟩)
      (clock : after.clock = engine.clock) (ids : after.ids = engine.ids.erase id) :
      Writes engine (.despawn id) after
  | ticked (answers : HostAnswers) : Writes engine (.tick answers) (engine.tickWith answers).engine
  | ran (answers : List HostAnswers) : Writes engine (.run answers) (engine.runWith answers).engine

theorem ids_eraseP (actors : List Actor) (id : ActorId) :
    (actors.eraseP fun actor => actor.id == id).map (·.id) = (actors.map (·.id)).erase id := by
  rw [List.erase_eq_eraseP', List.eraseP_map]
  rfl

theorem writes_perform (engine : Engine) (operation : Operation) :
    engine.Writes operation (engine.perform operation) := by
  cases operation with
  | spawn id params =>
    simp only [perform, spawn, Actor.spawn]
    cases params.validate with
    | error _ => exact .quiet rfl rfl rfl rfl
    | ok _ =>
      refine .spawned _ rfl rfl ?_
      simp [Except.map, Except.toOption, ids, SpawnParams.toActor]
  | despawn id =>
    simp only [perform, despawn]
    cases found : engine.actor? id with
    | none => exact .quiet rfl rfl rfl rfl
    | some actor =>
      have same := List.find?_some found
      have alive : id ∈ engine.ids :=
        List.mem_map.mpr ⟨actor, List.mem_of_find?_eq_some found, beq_iff_eq.mp same⟩
      exact .despawned alive _ rfl rfl (ids_eraseP engine.actors id)
  | tick answers => exact .ticked answers
  | run answers => exact .ran answers
  | acknowledge id =>
    simp only [perform, acknowledge]
    split
    · exact .quiet rfl rfl rfl rfl
    · exact .quiet rfl rfl rfl (ids_modifyActor engine id Actor.acknowledge fun actor => rfl)
  | attachTurret id handle turret =>
    simp only [perform, attachTurret]
    split
    · exact .quiet rfl rfl rfl rfl
    · refine .quiet rfl rfl rfl ?_
      exact ids_modifyActor engine id (fun actor => { actor with turret := some handle }) fun actor => rfl
  | edit id change =>
    refine .quiet rfl rfl rfl ?_
    exact ids_modifyActor engine id (fun actor => { change actor with id := actor.id }) fun actor => rfl
  | setReference _ | insertTurret _ _ | changeTurret _ _ | removeTurret _ => exact .quiet rfl rfl rfl rfl

namespace Chronicled

section
variable {engine : Engine} {drawn : List ActorId} {count : Nat}
  (chronicled : engine.Chronicled drawn count)
include chronicled

theorem toList_push (event : Event) :
    (engine.log.push event).toList = engine.log.toList ++ [event] :=
  EventLog.toList_append chronicled.unlimited [event]

/-- A tick appends what its actors and its failures have to say. -/
theorem tickWith (room : count + 1 < UInt64.size) (answers : HostAnswers) :
    (engine.tickWith answers).engine.Chronicled drawn (count + 1) := by
  have logged : (engine.tickWith answers).engine.log.toList =
      engine.log.toList ++ (engine.passes answers).flatMap (·.events) := by
    rw [tickWith_log, EventLog.toList_append chronicled.unlimited]
  have spawned : spawnedIds ((engine.passes answers).flatMap (·.events)) = [] := by
    refine List.filterMap_eq_nil_iff.mpr fun event member => ?_
    obtain ⟨_, _, _, concerns⟩ := chronicled.standard.concerns_of_mem_passes member
    exact concerns.spawned
  have despawned : despawnedIds ((engine.passes answers).flatMap (·.events)) = [] := by
    refine List.filterMap_eq_nil_iff.mpr fun event member => ?_
    obtain ⟨_, _, _, concerns⟩ := chronicled.standard.concerns_of_mem_passes member
    exact concerns.despawned
  have before : engine.clock.tick.toNat = count := by
    rw [chronicled.clock]
    exact UInt64.toNat_ofNat_of_lt' (by omega)
  refine ⟨chronicled.standard.tickWith answers, ?_, ?_, ?_, ?_⟩
  · rw [tickWith_capacity, chronicled.unlimited]
  · change engine.clock.tick + 1 = _
    rw [chronicled.clock, UInt64.ofNat_add]
    rfl
  · rw [logged, spawnedIds_append, spawned, List.append_nil]
    exact chronicled.drawn
  · rw [ids_tickWith, logged]
    refine chronicled.history.tick (before ▸ room) ?_ spawned despawned ?_
    · intro event member
      obtain ⟨_, _, _, concerns⟩ := chronicled.standard.concerns_of_mem_passes member
      exact concerns.tick
    · intro event member id involved
      obtain ⟨actor, live, _, concerns⟩ := chronicled.standard.concerns_of_mem_passes member
      rw [EventKind.involves_iff, concerns.actors] at involved
      obtain rfl := List.mem_singleton.mp involved
      exact List.mem_map_of_mem live

theorem runWith (answers : List HostAnswers) (room : count + answers.length < UInt64.size) :
    (engine.runWith answers).engine.Chronicled drawn (count + answers.length) := by
  refine runWith_induction
    (P := fun now later => now < UInt64.size → later.Chronicled drawn now)
    (fun now later given kept few => (kept (by omega)).tickWith few given) count
    (fun _ => chronicled) answers room

/-- An operation that draws a fresh identifier, if any, keeps the history. -/
theorem perform {operation : Operation} (fresh : ∀ id ∈ operation.drawn?, id ∉ drawn)
    (room : count + operation.ticks < UInt64.size) :
    (engine.perform operation).Chronicled (drawn ++ operation.drawn?.toList)
      (count + operation.ticks) := by
  have continues := continues_perform engine operation
  have standard := continues.standard chronicled.standard
  have unlimited := continues.capacity.trans chronicled.unlimited
  cases engine.writes_perform operation with
  | quiet instant log clock ids =>
    rw [instant]
    refine ⟨standard, unlimited, clock ▸ chronicled.clock, ?_, ?_⟩
    · rw [log]
      exact chronicled.drawn.trans (List.sublist_append_left _ _)
    · rw [log, clock, ids]
      exact chronicled.history
  | @spawned id params after text log clock ids =>
    have unspawned : id ∉ spawnedIds engine.log.toList := mt (chronicled.drawn.subset ·) (fresh id rfl)
    refine ⟨standard, unlimited, clock ▸ chronicled.clock, ?_, ?_⟩
    · rw [log, chronicled.toList_push, spawnedIds_append]
      exact chronicled.drawn.append (.refl [id])
    · rw [log, chronicled.toList_push, clock, ids]
      exact chronicled.history.spawn unspawned text
  | @despawned id after alive text log clock ids =>
    refine ⟨standard, unlimited, clock ▸ chronicled.clock, ?_, ?_⟩
    · rw [log, chronicled.toList_push, spawnedIds_append]
      exact chronicled.drawn.append (.refl [])
    · rw [log, chronicled.toList_push, clock, ids]
      exact chronicled.history.despawn alive text
  | ticked answers => exact (List.append_nil drawn).symm ▸ chronicled.tickWith room answers
  | ran answers => exact (List.append_nil drawn).symm ▸ chronicled.runWith answers room

end
end Chronicled

theorem chronicled_performAll {config : Config} {start : Engine} (new : Engine.new config = .ok start)
    (unlimited : config.maxEvents = 0) {operations : List Operation}
    (fresh : (drawnIds operations).Nodup) (few : ticksOf operations < UInt64.size) :
    (start.performAll operations).Chronicled (drawnIds operations) (ticksOf operations) := by
  induction operations using List.reverseRecOn with
  | nil => exact chronicled_of_new new unlimited
  | append_singleton earlier operation ih =>
    have total : ticksOf (earlier ++ [operation]) = ticksOf earlier + operation.ticks := by simp
    rw [drawnIds_append_singleton] at fresh ⊢
    rw [total] at few ⊢
    rw [performAll_append]
    have earlierFresh := List.nodup_append.mp fresh
    refine (ih earlierFresh.1 (by omega)).perform (fun id drawn member => ?_) few
    exact earlierFresh.2.2 id member id (Option.mem_toList.mpr drawn) rfl

/-- The reports of a run are of the next ticks, one after the other. -/
theorem ticks_runWith (engine : Engine) (answers : List HostAnswers)
    (room : engine.clock.tick.toNat + answers.length < UInt64.size) :
    (engine.runWith answers).reports.map (·.tick.toNat) =
      List.range' (engine.clock.tick.toNat + 1) answers.length := by
  induction answers generalizing engine with
  | nil => rfl
  | cons first later ih =>
    have next : (engine.tickWith first).engine.clock.tick.toNat = engine.clock.tick.toNat + 1 := by
      change (engine.clock.tick + 1).toNat = _
      simp only [List.length_cons, UInt64.size] at room
      rw [UInt64.toNat_add]
      simp only [UInt64.reduceToNat]
      omega
    have rest := ih (engine.tickWith first).engine (by
      rw [next]
      rw [List.length_cons] at room
      omega)
    rw [next] at rest
    rw [Engine.runWith, List.map_cons, rest, List.length_cons, List.range'_succ]
    exact congrArg (· :: _) next

/-- After any operations, the clock shows how many ticks were run, the log is a history of the engine,
and a run reports the ticks that come next. -/
theorem log_tells_history {config : Config} {start : Engine} (new : Engine.new config = .ok start)
    (unlimited : config.maxEvents = 0) {operations : List Operation}
    (fresh : (drawnIds operations).Nodup) (few : ticksOf operations < UInt64.size) :
    let engine := start.performAll operations
    engine.clock.tick.toNat = ticksOf operations ∧
      History engine.clock.tick engine.ids engine.log.toList ∧
      ∀ answers : List HostAnswers, ticksOf operations + answers.length < UInt64.size →
        (engine.runWith answers).reports.map (·.tick.toNat) =
          List.range' (ticksOf operations + 1) answers.length := by
  intro engine
  have chronicled := chronicled_performAll new unlimited fresh few
  have clock : engine.clock.tick.toNat = ticksOf operations := by
    rw [chronicled.clock]
    exact UInt64.toNat_ofNat_of_lt' few
  refine ⟨clock, chronicled.history, fun answers room => ?_⟩
  rw [← clock]
  exact ticks_runWith engine answers (clock.symm ▸ room)

/-- Three actors, of which one fires a timer and one is gone again. -/
theorem log_tells_history_despawned : ∃ start, Engine.new {} = .ok start ∧
    let operations : List Operation :=
      [.spawn ⟨.ofNat 1⟩ { name := "scout" },
        .spawn ⟨.ofNat 2⟩ { name := "gunship", timers := { fire := some 2 } },
        .run [fun _ => {}, fun _ => {}], .despawn ⟨.ofNat 1⟩, .spawn ⟨.ofNat 3⟩ { name := "relief" }]
    let engine := start.performAll operations
    engine.ids = [⟨.ofNat 2⟩, ⟨.ofNat 3⟩] ∧ engine.log.toList.map (·.tick) = [0, 0, 2, 2, 2] ∧
      engine.clock.tick.toNat = 2 ∧ History engine.clock.tick engine.ids engine.log.toList ∧
      (engine.runWith [fun _ => {}]).reports.map (·.tick.toNat) = [3] := by
  obtain ⟨clock, history, reports⟩ :=
    @log_tells_history {} _ rfl rfl
      [.spawn ⟨.ofNat 1⟩ { name := "scout" },
        .spawn ⟨.ofNat 2⟩ { name := "gunship", timers := { fire := some 2 } },
        .run [fun _ => {}, fun _ => {}], .despawn ⟨.ofNat 1⟩, .spawn ⟨.ofNat 3⟩ { name := "relief" }]
      (by decide) (by decide)
  exact ⟨_, rfl, by decide, by decide, clock, history, reports [fun _ => {}] (by decide)⟩

end Engine
end Rotorcraft
