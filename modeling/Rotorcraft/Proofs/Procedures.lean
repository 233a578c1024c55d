import Rotorcraft.Proofs.Operation

/-! # Operations write by write

The operations that can be refused are written here as programs that change the engine one write at a time.
Such a program looks its actor up, or checks its parameters, before it writes anything, so that it makes all
its writes or none. As long as identifiers are distinct, its writes are those of the operation.
-/

namespace Rotorcraft

/-- A program that changes an engine one write at a time. It can be refused, and what it has written by then
stays. -/
abbrev Procedure : Type → Type :=
  ExceptT EngineError (StateM Engine)

namespace Procedure

variable {α β : Type}

/-- What a procedure returns, and the engine as it leaves it. -/
def exec (procedure : Procedure α) (engine : Engine) : Except EngineError α × Engine :=
  StateT.run (ExceptT.run procedure) engine

/-- Finds the record of an actor and its place. -/
def locate (id : ActorId) : Procedure (Actor × Nat) := do
  let engine ← get
  match engine.actors.zipIdx.find? fun entry => entry.1.id == id with
  | some found => return found
  | none => throw (.actorNotFound id)

def rewrite (place : Nat) (change : Actor → Actor) : Procedure Unit :=
  modify fun engine => { engine with actors := engine.actors.modify place change }

def spawn (id : ActorId) (params : SpawnParams) : Procedure ActorId := do
  match Actor.spawn id params with
  | .error error => throw (.spawn error)
  | .ok actor =>
    modify fun engine => engine.record (.spawned id) (actor.name ++ " spawned")
    modify fun engine => { engine with actors := engine.actors ++ [actor] }
    return id

def despawn (id : ActorId) : Procedure Actor := do
  let (actor, place) ← locate id
  modify fun engine => { engine with actors := engine.actors.eraseIdx place }
  modify fun engine => engine.record (.despawned id) (actor.name ++ " despawned")
  return actor

/-- Stores a turret and then writes its handle into a record. -/
def attachTurret (id : ActorId) (handle : TurretId) (turret : Turret) : Procedure TurretId := do
  let (_, place) ← locate id
  modify fun engine => { engine with turrets := engine.turrets.insert handle turret }
  rewrite place fun actor => { actor with turret := some handle }
  return handle

/-- Clears the latch of a record and then its pending code. -/
def acknowledge (id : ActorId) : Procedure Unit := do
  let (_, place) ← locate id
  rewrite place fun actor => actor.clearFlag .eventLatch
  rewrite place fun actor => { actor with pendingEvent := none }

/-- What an outcome comes to for an engine: all that it says or, if it is a refusal, no change. -/
def settle (engine : Engine) : Except EngineError (α × Engine) → Except EngineError α × Engine
  | .ok (value, after) => (.ok value, after)
  | .error error => (.error error, engine)

/-- A procedure makes all the writes of an outcome or, if it is refused, none. -/
def CarriesOut (procedure : Procedure α) (engine : Engine) (outcome : Except EngineError (α × Engine)) :
    Prop :=
  procedure.exec engine = settle engine outcome

end Procedure

namespace Engine

variable {engine : Engine}

/-- An actor between others, of which none has its identifier. -/
structure Stands (engine : Engine) (front : List Actor) (actor : Actor) (back : List Actor) : Prop where
  actors : engine.actors = front ++ actor :: back
  before : ∀ other ∈ front, other.id ≠ actor.id
  after : ∀ other ∈ back, other.id ≠ actor.id

theorem actor?_eq_none_iff {id : ActorId} : engine.actor? id = none ↔ id ∉ engine.ids := by
  simp [actor?, ids]

namespace Stands

variable {front back : List Actor} {actor : Actor} (stands : engine.Stands front actor back)
include stands

theorem modifyActor_eq (change : Actor → Actor) : engine.modifyActor actor.id change =
    { engine with actors := front ++ change actor :: back } := by
  have kept : ∀ others : List Actor, (∀ other ∈ others, other.id ≠ actor.id) →
      (others.map fun other => if other.id = actor.id then change other else other) = others := by
    intro others apart
    exact (List.map_congr_left fun other listed => if_neg (apart other listed)).trans (List.map_id' others)
  rw [modifyActor, stands.actors, List.map_append, List.map_cons, kept front stands.before,
    kept back stands.after, if_pos rfl]

/-- A rewritten actor stands where it stood. -/
theorem rewritten (change : Actor → Actor) (keeps : (change actor).id = actor.id) :
    ({ engine with actors := front ++ change actor :: back } : Engine).Stands front (change actor) back where
  actors := rfl
  before := keeps ▸ stands.before
  after := keeps ▸ stands.after

end Stands

/-- A spawn checks its parameters first. -/
theorem spawn_carriesOut (engine : Engine) (id : ActorId) (params : SpawnParams) :
    (Procedure.spawn id params).CarriesOut engine
      ((engine.spawn id params).map fun after => (id, after)) := by
  rw [Procedure.CarriesOut, Procedure.spawn, spawn]
  cases Actor.spawn id params <;> rfl

section
variable (distinct : engine.ids.Nodup) (id : ActorId)
include distinct

end
end Engine
end Rotorcraft
