import Mathlib.Data.List.Basic
import Rotorcraft.Engine
import Rotorcraft.Proofs.Standard

/-! # Ticks and runs of ticks

A tick is the list of the passes of its actors, each of them on its own: everything that a tick
changes, reports, logs or tells the host is read off that list. What holds after every tick of a run
follows by induction from what one tick keeps.
-/

namespace Rotorcraft

theorem EventLog.capacity_append (log : EventLog) (events : List Event) :
    (log.append events).capacity = log.capacity := by
  induction events generalizing log with
  | nil => rfl
  | cons event rest ih =>
    refine (ih (log.push event)).trans ?_
    simp only [push, trim]
    split <;> rfl

/-- A log without a capacity keeps every event. -/
theorem EventLog.toList_append {log : EventLog} (unlimited : log.capacity = 0) (events : List Event) :
    (log.append events).toList = log.toList ++ events := by
  induction events generalizing log with
  | nil => exact (List.append_nil _).symm
  | cons event rest ih =>
    have pushed : log.push event = { log with events := log.events.push event } := by
      simp [push, trim, unlimited]
    calc (log.append (event :: rest)).toList
      _ = ((log.push event).append rest).toList := rfl
      _ = (log.push event).toList ++ rest := ih (by rw [pushed]; exact unlimited)
      _ = log.toList ++ event :: rest := by simp [pushed, toList]

namespace Engine

def IsStandard (engine : Engine) : Prop :=
  Pipeline.IsStandard engine.stages

/-- An engine is made if its settings are accepted, and then it holds nothing but these and its stages. -/
theorem withStages_eq_ok_iff {config : Config} {stages : List Stage} {engine : Engine} :
    withStages config stages = .ok engine ↔ config.validate = .ok () ∧
      engine = { config := config, log := { capacity := config.maxEvents }, stages := stages } := by
  rw [withStages]
  cases config.validate with
  | error error => simp [Except.map]
  | ok _ => simp [Except.map, eq_comm]

/-- What an engine with given settings is before its first operation. -/
theorem eq_of_new {config : Config} {engine : Engine} (new : Engine.new config = .ok engine) :
    engine = { config := config, log := { capacity := config.maxEvents }, stages := Stage.standard } :=
  (withStages_eq_ok_iff.mp new).2

theorem standard_of_new {config : Config} {engine : Engine} (new : Engine.new config = .ok engine) :
    engine.IsStandard := by
  rw [eq_of_new new]
  rfl

section Framed
variable (engine : Engine) (answers : HostAnswers)

theorem framed_const (host : Host) :
    engine.framed (fun _ => host) = engine.actors.map fun actor => (engine.frame host, actor) := by
  simp [framed, List.mapIdx_eq_iff]

theorem getElem?_framed (place : Nat) : (engine.framed answers)[place]? =
    engine.actors[place]?.map fun actor => (engine.frame (answers place), actor) := by
  simp [framed]

theorem framed_actors : (engine.framed answers).map Prod.snd = engine.actors := by
  refine List.ext_getElem? fun place => ?_
  rw [List.getElem?_map, getElem?_framed, Option.map_map]
  cases engine.actors[place]? <;> rfl

/-- Engines with the same actors, of which one sees its frames through a view of those of the other. -/
theorem framed_eq_map (other : Engine) (view : Frame → Frame) (actors : other.actors = engine.actors)
    (frames : ∀ host, other.frame host = view (engine.frame host)) :
    other.framed answers = (engine.framed answers).map fun entry => (view entry.1, entry.2) := by
  refine List.ext_getElem? fun place => ?_
  rw [List.getElem?_map, getElem?_framed, getElem?_framed, Option.map_map, actors]
  simp only [frames]
  rfl

variable {engine answers}

theorem mem_framed {entry : Frame × Actor} (member : entry ∈ engine.framed answers) :
    entry.2 ∈ engine.actors ∧ ∃ host, entry.1 = engine.frame host := by
  obtain ⟨place, bound, rfl⟩ := List.mem_mapIdx.mp member
  exact ⟨List.getElem_mem bound, _, rfl⟩

end Framed

section Tick
variable (engine : Engine) (answers : HostAnswers)

/-- The passes of the actors in the next tick, in tick order. -/
def passes : List Pass :=
  (engine.advanced.framed answers).map fun entry => Pipeline.pass entry.1 engine.stages entry.2

theorem runAll_passes :
    (Pipeline.runAll engine.stages (engine.advanced.framed answers)).2 = engine.passes answers :=
  Pipeline.runAll_passes _ _

theorem tickWith_actors :
    (engine.tickWith answers).engine.actors = (engine.passes answers).map (·.actor) := by
  rw [← runAll_passes]
  rfl

theorem tickWith_log : (engine.tickWith answers).engine.log =
    engine.log.append ((engine.passes answers).flatMap (·.events)) := by
  rw [← runAll_passes]
  rfl

theorem tickWith_calls :
    (engine.tickWith answers).calls = (engine.passes answers).flatMap (·.calls) := by
  rw [← runAll_passes]
  rfl

theorem tickWith_report : (engine.tickWith answers).report =
    report (engine.clock.tick + 1) (engine.passes answers) := by
  rw [← runAll_passes]
  rfl

theorem tickWith_capacity :
    (engine.tickWith answers).engine.log.capacity = engine.log.capacity := by
  rw [tickWith_log, EventLog.capacity_append]

variable {engine}

theorem IsStandard.tickWith (standard : engine.IsStandard) :
    (engine.tickWith answers).engine.IsStandard :=
  (Pipeline.runAll_cleared _ _).trans standard

variable {answers}

/-- An actor after a tick is one before it, taken through the pipeline. -/
theorem mem_tickWith {after : Actor} (member : after ∈ (engine.tickWith answers).engine.actors) :
    ∃ before ∈ engine.actors, ∃ host,
      after = (Pipeline.run (engine.advanced.frame host) engine.stages before).2.actor := by
  rw [tickWith_actors, passes, List.map_map] at member
  obtain ⟨⟨frame, before⟩, entered, rfl⟩ := List.mem_map.mp member
  obtain ⟨live, host, rfl⟩ := mem_framed entered
  exact ⟨before, live, host, Pipeline.pass_actor _ _ _⟩

end Tick

/-- What one tick passes on, counted up by one, a run passes on, counted up by its length. -/
theorem runWith_induction {P : Nat → Engine → Prop}
    (step : ∀ count engine answers, P count engine → P (count + 1) (engine.tickWith answers).engine)
    (count : Nat) {engine : Engine} (initial : P count engine) (answers : List HostAnswers) :
    P (count + answers.length) (engine.runWith answers).engine := by
  induction answers generalizing count engine with
  | nil => exact initial
  | cons first later ih =>
    have rest := ih (count + 1) (step count engine first initial)
    rw [List.length_cons, Nat.add_comm later.length, ← Nat.add_assoc]
    exact rest

theorem runWith_keeps {P : Engine → Prop}
    (step : ∀ engine answers, P engine → P (engine.tickWith answers).engine) {engine : Engine}
    (initial : P engine) (answers : List HostAnswers) : P (engine.runWith answers).engine :=
  runWith_induction (P := fun _ => P) (fun _ => step) 0 initial answers

/-- What the standard pipeline keeps of every actor, a run keeps. -/
theorem IsStandard.actors_runWith {P : Actor → Prop} {engine : Engine} (standard : engine.IsStandard)
    (step : ∀ frame stages actor, Pipeline.IsStandard stages → P actor →
      P (Pipeline.run frame stages actor).2.actor)
    (initial : ∀ actor ∈ engine.actors, P actor) (answers : List HostAnswers) :
    ∀ actor ∈ (engine.runWith answers).engine.actors, P actor := by
  refine (runWith_keeps (P := fun later => later.IsStandard ∧ ∀ actor ∈ later.actors, P actor)
    (fun later given kept => ⟨kept.1.tickWith given, ?_⟩) ⟨standard, initial⟩ answers).2
  intro after member
  obtain ⟨before, live, host, rfl⟩ := mem_tickWith member
  exact step _ _ before kept.1 (kept.2 before live)

end Engine
end Rotorcraft
