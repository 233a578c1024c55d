import Rotorcraft.EventLog
import Rotorcraft.Pipeline

/-! # The engine

The engine owns the actors, the turrets, the shared frame of reference and the pipeline. A tick
advances the clock and takes every actor through the pipeline, one after the other; a failure ends
the tick of its actor only. Identifiers of new actors and turrets are given by the caller.
-/

namespace Rotorcraft

/-- What a tick did. -/
structure TickReport where
  tick : UInt64
  /-- How many actors went through all stages. -/
  processed : Nat
  /-- The actors whose tick was cut short, each with the reason. -/
  faults : List (ActorId × EngineError)
deriving DecidableEq

/-- Whether every actor went through all stages. -/
def TickReport.isClean (report : TickReport) : Bool :=
  report.faults.isEmpty

/-- The bytes of a report in a list: its tick, its count of actors, and where its faults are, how many there are and
how many there is room for. -/
def TickReport.bytes : Nat := 40

/-- The most reports that a list can hold, as it takes up `2 ^ 63 - 1` bytes at most; memory is taken to suffice
for them. -/
def TickReport.limit : Nat := 0x7FFFFFFFFFFFFFFF / bytes

/-- An engine between two operations. -/
structure Engine where
  /-- The live actors, in tick order. -/
  actors : List Actor := []
  turrets : TurretStore := {}
  reference : ReferenceFrame := {}
  clock : Clock := {}
  config : Config := {}
  log : EventLog := {}
  host : Host := {}
  stages : List Stage := []

/-- What a tick returns. -/
structure Ticked where
  engine : Engine
  report : TickReport
  calls : List HostCall

/-- What some ticks in a row return. -/
structure Ran where
  engine : Engine
  reports : List TickReport
  calls : List HostCall

namespace Engine

def withStages (config : Config) (stages : List Stage) : Except ConfigError Engine :=
  config.validate.map fun _ =>
    { config := config, log := { capacity := config.maxEvents }, stages := stages }

def new (config : Config) : Except ConfigError Engine :=
  withStages config Stage.standard

def actor? (engine : Engine) (id : ActorId) : Option Actor :=
  engine.actors.find? fun actor => actor.id == id

/-- Changes the live actor of an identifier; identifiers are distinct. -/
def modifyActor (engine : Engine) (id : ActorId) (change : Actor → Actor) : Engine :=
  { engine with
    actors := engine.actors.map fun actor => if actor.id = id then change actor else actor }

def record (engine : Engine) (kind : EventKind) (description : String) : Engine :=
  { engine with log := engine.log.push ⟨engine.clock.tick, kind, description⟩ }

/-- Adds a new actor at the end of the tick order. -/
def spawn (engine : Engine) (id : ActorId) (params : SpawnParams) : Except EngineError Engine :=
  match Actor.spawn id params with
  | .error error => .error (.spawn error)
  | .ok actor =>
    .ok { engine.record (.spawned id) (actor.name ++ " spawned") with
      actors := engine.actors ++ [actor] }

/-- Removes an actor; its turret stays in the store. -/
def despawn (engine : Engine) (id : ActorId) : Except EngineError (Actor × Engine) :=
  match engine.actor? id with
  | none => .error (.actorNotFound id)
  | some actor =>
    .ok (actor, { engine.record (.despawned id) (actor.name ++ " despawned") with
      actors := engine.actors.eraseP fun other => other.id == id })

/-- Makes a turret under a new handle and gives it to an actor. -/
def attachTurret (engine : Engine) (id : ActorId) (handle : TurretId) (turret : Turret) :
    Except EngineError Engine :=
  match engine.actor? id with
  | none => .error (.actorNotFound id)
  | some _ =>
    .ok { engine.modifyActor id fun actor => { actor with turret := some handle } with
      turrets := engine.turrets.insert handle turret }

/-- Drops the pending code of an actor, which is then no longer forwarded again. -/
def acknowledge (engine : Engine) (id : ActorId) : Except EngineError Engine :=
  match engine.actor? id with
  | none => .error (.actorNotFound id)
  | some _ => .ok (engine.modifyActor id Actor.acknowledge)

def setReference (engine : Engine) (reference : ReferenceFrame) : Engine :=
  { engine with reference := reference }

def addStage (engine : Engine) (stage : Stage) : Engine :=
  { engine with stages := engine.stages ++ [stage] }

/-- What a stage reads during the current tick, while the host has given answers. -/
def frame (engine : Engine) (host : Host) : Frame :=
  ⟨engine.clock, engine.config, engine.reference, engine.turrets, host⟩

/-- The engine with its clock advanced, as the stages of its next tick find it. -/
def advanced (engine : Engine) : Engine :=
  { engine with clock := engine.clock.advance }

/-- The actors in tick order, each with the frame that its stages read. -/
def framed (engine : Engine) (answers : HostAnswers) : List (Frame × Actor) :=
  engine.actors.mapIdx fun place actor => (engine.frame (answers place), actor)

/-- The report of a tick from the passes of its actors. -/
def report (tick : UInt64) (passes : List Pass) : TickReport where
  tick := tick
  processed := (passes.filter fun pass => pass.error.isNone).length
  faults := passes.filterMap fun pass => pass.error.map fun error => (pass.actor.id, error)

/-- Advances the clock and takes every actor through the pipeline, which asks a host for `answers`. -/
def tickWith (engine : Engine) (answers : HostAnswers) : Ticked :=
  let engine := engine.advanced
  let (stages, passes) := Pipeline.runAll engine.stages (engine.framed answers)
  { engine := { engine with
      actors := passes.map (·.actor)
      log := engine.log.append (passes.flatMap (·.events))
      stages := stages }
    report := report engine.clock.tick passes
    calls := passes.flatMap (·.calls) }

/-- A tick of the engine and its own host, which answers all actors alike. -/
def tick (engine : Engine) : Ticked :=
  engine.tickWith fun _ => engine.host

/-- Runs ticks in a row, one for each of the given answers. -/
def runWith (engine : Engine) : List HostAnswers → Ran
  | [] => ⟨engine, [], []⟩
  | answers :: later =>
    let first := engine.tickWith answers
    let rest := first.engine.runWith later
    ⟨rest.engine, first.report :: rest.reports, first.calls ++ rest.calls⟩

/-- Runs ticks in a row with the engine's own host, where there is room for their reports. -/
def run (engine : Engine) (count : Nat) : Ran :=
  engine.runWith (List.replicate count fun _ => engine.host)

/-- Makes a list for the reports of some ticks and runs them; there is none for too many, and then no tick is run. -/
def run? (engine : Engine) (count : Nat) : Option Ran :=
  if count ≤ TickReport.limit then some (engine.run count) else none

def timerCounters? (engine : Engine) : Option TimerCounters :=
  engine.stages.findSome? Stage.timerCounters?

def motionCounters? (engine : Engine) : Option MotionCounters :=
  engine.stages.findSome? Stage.motionCounters?

def dispatchCounters? (engine : Engine) : Option DispatchCounters :=
  engine.stages.findSome? Stage.dispatchCounters?

def transferCounters? (engine : Engine) : Option TransferCounters :=
  engine.stages.findSome? Stage.transferCounters?

/-- Puts a stage in the place of the first one of its kind, if there is one. -/
def replaceStage? (engine : Engine) (stage : Stage) : Option Engine :=
  let kept := engine.stages.takeWhile fun other => !stage.sameKind other
  match engine.stages.drop kept.length with
  | [] => none
  | _ :: rest => some { engine with stages := kept ++ stage :: rest }

def summary (engine : Engine) : String :=
  "Engine \x7b tick: " ++ toString engine.clock.tick.toNat ++ ", entities: " ++
    toString engine.actors.length ++ ", stages: " ++ toString engine.stages.length ++
    ", events: " ++ toString engine.log.size ++ " \x7d"

end Engine
end Rotorcraft
