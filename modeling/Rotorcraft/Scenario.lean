import Rotorcraft.Engine

/-! # Scenarios

A scenario describes an engine before its first tick: the settings, the frame of reference, and the
actors with their turrets in spawn order.
-/

namespace Rotorcraft

/-- An actor of a scenario, with its turret if it has one. -/
structure ScenarioActor where
  params : SpawnParams := {}
  turret : Option Turret := none
deriving DecidableEq, Inhabited

/-- The description of an engine before its first tick. -/
structure Scenario where
  name : String := ""
  config : Config := {}
  reference : ReferenceFrame := {}
  actors : List ScenarioActor := []
deriving DecidableEq, Inhabited

/-- Why a scenario cannot be set up. -/
inductive ScenarioError where
  | config (scenario : String) (error : ConfigError)
  | actor (index : Nat) (error : EngineError)
deriving DecidableEq

def ScenarioError.message : ScenarioError → String
  | .config scenario error => "scenario '" ++ scenario ++ "': " ++ error.message
  | .actor index error => "actor #" ++ toString index ++ ": " ++ error.message

/-- The identifiers that the actors of a scenario and their turrets get, by index. -/
structure IdSupply where
  actor : Nat → ActorId
  turret : Nat → TurretId

namespace Scenario

/-- Adds the actor of an index to an engine. -/
def addActor (ids : IdSupply) (engine : Engine) (index : Nat) (actor : ScenarioActor) :
    Except EngineError Engine := do
  let engine ← engine.spawn (ids.actor index) actor.params
  match actor.turret with
  | some turret => engine.attachTurret (ids.actor index) (ids.turret index) turret
  | none => .ok engine

/-- Adds actors to an engine, the first of them with the given index. -/
def addActors (ids : IdSupply) (engine : Engine) (index : Nat) :
    List ScenarioActor → Except ScenarioError Engine
  | [] => .ok engine
  | actor :: rest =>
    match addActor ids engine index actor with
    | .error error => .error (.actor index error)
    | .ok engine => addActors ids engine (index + 1) rest

/-- Sets up the engine that a scenario describes. -/
def build (scenario : Scenario) (host : Host) (ids : IdSupply) : Except ScenarioError Engine :=
  match Engine.new scenario.config with
  | .error error => .error (.config scenario.name error)
  | .ok engine =>
    addActors ids { engine with host := host, reference := scenario.reference } 0 scenario.actors

end Scenario
end Rotorcraft
