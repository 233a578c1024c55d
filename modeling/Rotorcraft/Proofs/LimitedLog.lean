import Rotorcraft.Proofs.Capacity
import Rotorcraft.Proofs.Operation

/-! # A limited log influences nothing

Nobody reads the log back, so an engine whose log has a capacity does in everything but its log what the
same engine does with an unlimited one. `Engine.limited` takes the latter to the former, and it commutes
with every operation.
-/

namespace Rotorcraft

/-- The log as it would be with a capacity. -/
def EventLog.limited (log : EventLog) (capacity : UInt64) : EventLog :=
  ⟨capacity, (newest capacity log.toList).toArray⟩

def Engine.limited (engine : Engine) (capacity : UInt64) : Engine :=
  { engine with
    config := { engine.config with maxEvents := capacity }
    log := engine.log.limited capacity }

namespace EventLog

/-- A log is its capacity and its events. -/
theorem eq_of_toList_eq {first second : EventLog} (capacity : first.capacity = second.capacity)
    (events : first.toList = second.toList) : first = second := by
  obtain ⟨_, firstEvents⟩ := first
  obtain ⟨_, secondEvents⟩ := second
  obtain rfl : firstEvents = secondEvents := Array.toList_inj.mp events
  exact congrArg (EventLog.mk · firstEvents) capacity

theorem limited_append {log : EventLog} (unlimited : log.capacity = 0) (capacity : UInt64)
    (events : List Event) : (log.limited capacity).append events = (log.append events).limited capacity := by
  refine eq_of_toList_eq (capacity_append _ _) ?_
  have shown : (log.limited capacity).toList = newest capacity log.toList := rfl
  refine (toList_append_newest shown events).trans ?_
  rw [← toList_append unlimited]
  rfl

end EventLog

section
variable (frame : Frame) (capacity : UInt64)

theorem Script.act_limited (actor : Actor) (action : HostAction) :
    act (frame.limited capacity) actor action = act frame actor action := by
  cases action <;> rfl

theorem Script.actAll_limited (actor : Actor) (actions : List HostAction) :
    actAll (frame.limited capacity) actor actions = actAll frame actor actions := by
  induction actions generalizing actor with
  | nil => rfl
  | cons action rest ih => simp only [actAll, act_limited, ih]

theorem Script.run_limited (script : Script) (actor : Actor) :
    script.run (frame.limited capacity) actor = script.run frame actor := by
  simp only [run, actAll_limited]

/-- A script as a stage like any other of the host. -/
def Script.hosted (script : Script) : HostStage where
  run frame actor := script.run frame actor
  run_id frame actor := (script.run_concerns frame actor).id
  run_limited frame capacity actor := script.run_limited frame capacity actor

theorem Script.run_hosted (script : Script) (actor : Actor) :
    ((Stage.hosted script.hosted).run frame actor).2 = ((Stage.scripted script).run frame actor).2 := rfl

/-- No stage asks how much the log holds. -/
theorem Stage.run_limited (stage : Stage) (actor : Actor) :
    stage.run (frame.limited capacity) actor = stage.run frame actor := by
  cases stage with
  | timers counters => rfl
  | motion counters => rfl
  | dispatch counters => rfl
  | transfer counters => rfl
  | scripted script => simp only [Stage.run, Script.run_limited]
  | hosted stage => simp only [Stage.run, stage.run_limited]

namespace Pipeline

theorem run_limited (stages : List Stage) (actor : Actor) :
    run (frame.limited capacity) stages actor = run frame stages actor := by
  induction stages generalizing actor with
  | nil => rfl
  | cons stage rest ih => simp only [run, Stage.run_limited, ih]

theorem runAll_limited (stages : List Stage) (entries : List (Frame × Actor)) :
    runAll stages (entries.map fun entry => (entry.1.limited capacity, entry.2)) =
      runAll stages entries := by
  induction entries generalizing stages with
  | nil => rfl
  | cons entry rest ih =>
    simp only [List.map_cons, runAll, run_limited, ih]
    rfl

end Pipeline
end

namespace Engine

variable {engine : Engine} (unlimited : engine.log.capacity = 0) (capacity : UInt64)

section
include unlimited

theorem record_limited (kind : EventKind) (description : String) :
    (engine.limited capacity).record kind description =
      (engine.record kind description).limited capacity := by
  have pushed := EventLog.limited_append unlimited capacity [⟨engine.clock.tick, kind, description⟩]
  simp only [record, limited]
  exact congrArg (fun log : EventLog => ({ engine.limited capacity with log := log } : Engine)) pushed

theorem tickWith_limited (answers : HostAnswers) : (engine.limited capacity).tickWith answers =
    { engine.tickWith answers with engine := (engine.tickWith answers).engine.limited capacity } := by
  have framed : (engine.limited capacity).advanced.framed answers =
      (engine.advanced.framed answers).map fun entry => (entry.1.limited capacity, entry.2) :=
    framed_eq_map engine.advanced answers (engine.limited capacity).advanced (·.limited capacity) rfl
      fun host => rfl
  have same : Pipeline.runAll (engine.limited capacity).advanced.stages
        ((engine.limited capacity).advanced.framed answers) =
      Pipeline.runAll engine.advanced.stages (engine.advanced.framed answers) := by
    rw [framed]
    exact Pipeline.runAll_limited capacity _ _
  have logged (events : List Event) : (engine.limited capacity).advanced.log.append events =
      (engine.log.append events).limited capacity := EventLog.limited_append unlimited capacity events
  simp only [Engine.tickWith, same, logged]
  rfl

theorem spawn_limited (id : ActorId) (params : SpawnParams) : (engine.limited capacity).spawn id params =
    (engine.spawn id params).map (·.limited capacity) := by
  simp only [spawn, record_limited unlimited]
  split <;> rfl

theorem despawn_limited (id : ActorId) : (engine.limited capacity).despawn id =
    (engine.despawn id).map fun removed => (removed.1, removed.2.limited capacity) := by
  have same : (engine.limited capacity).actor? id = engine.actor? id := rfl
  simp only [despawn, same, record_limited unlimited]
  split <;> rfl

end

theorem attachTurret_limited (engine : Engine) (id : ActorId) (handle : TurretId) (turret : Turret) :
    (engine.limited capacity).attachTurret id handle turret =
      (engine.attachTurret id handle turret).map (·.limited capacity) := by
  have same : (engine.limited capacity).actor? id = engine.actor? id := rfl
  simp only [attachTurret, same]
  split <;> rfl

theorem acknowledge_limited (engine : Engine) (id : ActorId) :
    (engine.limited capacity).acknowledge id = (engine.acknowledge id).map (·.limited capacity) := by
  have same : (engine.limited capacity).actor? id = engine.actor? id := rfl
  simp only [acknowledge, same]
  split <;> rfl

section
include unlimited

theorem runWith_limited (answers : List HostAnswers) : (engine.limited capacity).runWith answers =
    { engine.runWith answers with engine := (engine.runWith answers).engine.limited capacity } := by
  induction answers generalizing engine with
  | nil => rfl
  | cons first later ih =>
    have next : (engine.tickWith first).engine.log.capacity = 0 :=
      (tickWith_capacity engine first).trans unlimited
    simp only [Engine.runWith, tickWith_limited unlimited, ih next]

/-- Every operation does to the engine with the limited log what it does to the other. -/
theorem perform_limited (operation : Operation) : (engine.limited capacity).perform operation =
    (engine.perform operation).limited capacity := by
  cases operation with
  | spawn id params =>
    simp only [perform, spawn_limited unlimited]
    cases engine.spawn id params <;> rfl
  | despawn id =>
    simp only [perform, despawn_limited unlimited]
    cases engine.despawn id <;> rfl
  | tick answers => simp only [perform, tickWith_limited unlimited]
  | run answers => simp only [perform, runWith_limited unlimited]
  | acknowledge id =>
    simp only [perform, acknowledge_limited]
    cases engine.acknowledge id <;> rfl
  | attachTurret id handle turret =>
    simp only [perform, attachTurret_limited]
    cases engine.attachTurret id handle turret <;> rfl
  | setReference _ | insertTurret _ _ | changeTurret _ _ | removeTurret _ | edit _ _ => rfl

theorem reply_limited (operation : Operation) :
    (engine.limited capacity).reply operation = engine.reply operation := by
  cases operation with
  | spawn id params =>
    simp only [reply, spawn_limited unlimited]
    cases engine.spawn id params <;> rfl
  | despawn id =>
    simp only [reply, despawn_limited unlimited]
    cases engine.despawn id <;> rfl
  | tick answers => simp only [reply, tickWith_limited unlimited]
  | run answers => simp only [reply, runWith_limited unlimited]
  | acknowledge id =>
    simp only [reply, acknowledge_limited]
    cases engine.acknowledge id <;> rfl
  | attachTurret id handle turret =>
    simp only [reply, attachTurret_limited]
    cases engine.attachTurret id handle turret <;> rfl
  | setReference _ | insertTurret _ _ | changeTurret _ _ | removeTurret _ | edit _ _ => rfl

theorem performAll_limited (operations : List Operation) :
    (engine.limited capacity).performAll operations = (engine.performAll operations).limited capacity := by
  induction operations generalizing engine with
  | nil => rfl
  | cons operation rest ih =>
    have next : (engine.perform operation).log.capacity = 0 :=
      (continues_perform engine operation).capacity.trans unlimited
    calc (engine.limited capacity).performAll (operation :: rest)
      _ = ((engine.limited capacity).perform operation).performAll rest := rfl
      _ = ((engine.perform operation).limited capacity).performAll rest := by
        rw [perform_limited unlimited]
      _ = ((engine.perform operation).performAll rest).limited capacity := ih next

theorem replies_limited (operations : List Operation) :
    (engine.limited capacity).replies operations = engine.replies operations := by
  induction operations generalizing engine with
  | nil => rfl
  | cons operation rest ih =>
    have next : (engine.perform operation).log.capacity = 0 :=
      (continues_perform engine operation).capacity.trans unlimited
    simp only [replies, reply_limited unlimited, perform_limited unlimited, ih next]

end

/-- An engine whose log holds the newest events of another one's log and which is otherwise the same. -/
structure ShowsNewest (bounded unlimited : Engine) (capacity : UInt64) : Prop where
  actors : bounded.actors = unlimited.actors
  turrets : bounded.turrets = unlimited.turrets
  reference : bounded.reference = unlimited.reference
  clock : bounded.clock = unlimited.clock
  host : bounded.host = unlimited.host
  /-- The stages have counted the same, too. -/
  stages : bounded.stages = unlimited.stages
  config : bounded.config = { unlimited.config with maxEvents := capacity }
  log : bounded.log.toList = unlimited.log.toList.rtake capacity.toNat

theorem showsNewest_limited (engine : Engine) {capacity : UInt64} (limited : capacity ≠ 0) :
    (engine.limited capacity).ShowsNewest engine capacity :=
  ⟨rfl, rfl, rfl, rfl, rfl, rfl, rfl, EventLog.newest_of_limited limited _⟩

/-- Whether settings are accepted does not depend on how much the log is to hold. -/
theorem withStages_limited {config : Config} {stages : List Stage} {engine : Engine}
    (made : withStages { config with maxEvents := 0 } stages = .ok engine) (capacity : UInt64) :
    withStages { config with maxEvents := capacity } stages = .ok (engine.limited capacity) := by
  obtain ⟨valid, rfl⟩ := withStages_eq_ok_iff.mp made
  refine withStages_eq_ok_iff.mpr ⟨valid, ?_⟩
  have empty : EventLog.limited { capacity := 0 } capacity = { capacity := capacity } :=
    EventLog.eq_of_toList_eq rfl (EventLog.newest_nil capacity)
  simp only [limited, empty]

/-- A log of limited capacity shows the newest events: those pushed since it was cleared last, and in an
engine those of the same operations on the same engine with an unlimited log. Beyond that, the engines
differ in nothing, and no operation returns or calls anything else. -/
theorem capacity_inert {capacity : UInt64} (limited : capacity ≠ 0) :
    (∀ actions : List LogAction, (EventLog.actAll { capacity := capacity } actions).toList =
      (LogAction.sinceClear actions).rtake capacity.toNat) ∧
    ∀ (config : Config) (stages : List Stage) (unlimited : Engine),
      withStages { config with maxEvents := 0 } stages = .ok unlimited →
      ∃ bounded, withStages { config with maxEvents := capacity } stages = .ok bounded ∧
        ∀ (host : Host) (operations : List Operation),
          let first : Engine := { bounded with host := host }
          let second : Engine := { unlimited with host := host }
          (first.performAll operations).ShowsNewest (second.performAll operations) capacity ∧
            first.replies operations = second.replies operations := by
  refine ⟨fun actions => ?_, fun config stages unlimited made => ?_⟩
  · rw [EventLog.toList_actAll, EventLog.newest_of_limited limited]
  · refine ⟨unlimited.limited capacity, withStages_limited made capacity, fun host operations => ?_⟩
    have empty : ({ unlimited with host := host } : Engine).log.capacity = 0 := by
      rw [(withStages_eq_ok_iff.mp made).2]
    refine ⟨?_, replies_limited empty capacity operations⟩
    have same := performAll_limited empty capacity operations
    change (({ unlimited with host := host } : Engine).limited capacity |>.performAll operations).ShowsNewest
      _ capacity
    rw [same]
    exact showsNewest_limited _ limited

/-- A log of two events, in an engine one of whose stages fails. -/
theorem capacity_inert_trimmed : (2 : UInt64) ≠ 0 ∧
    (EventLog.actAll { capacity := 2 } [.push ⟨1, .custom "a" [], ""⟩, .clear, .push ⟨2, .custom "b" [], ""⟩,
      .push ⟨3, .custom "c" [], ""⟩, .push ⟨4, .custom "d" [], ""⟩]).toList.map (·.tick) = [3, 4] ∧
    ∃ unlimited bounded, withStages {} [.timers {}, .scripted { actions := [.fail "x"] }] = .ok unlimited ∧
      withStages { maxEvents := 2 } [.timers {}, .scripted { actions := [.fail "x"] }] = .ok bounded ∧
      let operations : List Operation :=
        [.spawn ⟨.ofNat 1⟩ { name := "gunship", timers := { fire := some 1 } }, .tick fun _ => {}]
      (unlimited.performAll operations).log.size = 3 ∧
        (({ bounded with host := {} } : Engine).performAll operations).ShowsNewest
          (unlimited.performAll operations) 2 := by
  obtain ⟨pushed, simulated⟩ := @capacity_inert 2 (by decide)
  obtain ⟨bounded, made, runs⟩ :=
    simulated {} [.timers {}, .scripted { actions := [.fail "x"] }] _ rfl
  refine ⟨by decide, ?_, _, bounded, rfl, made, by decide, (runs {} _).1⟩
  rw [pushed]
  decide

end Engine
end Rotorcraft
