import Rotorcraft.Proofs.Procedures

/-! # All or nothing

An operation that is refused leaves the engine as it was, write by write, and one that is not changes its part
of the engine only. Operations on two actors do not get into each other's way: in either order they return the
same, and the engines that they lead to differ in the order of what was logged and stored at most.
-/

namespace Rotorcraft

namespace TurretStore

variable (store : TurretStore) {handle : TurretId}

theorem get?_erase_of_ne {other : TurretId} (differs : other ≠ handle) :
    (store.erase handle).get? other = store.get? other := by
  rw [get?, get?, erase]
  induction store.entries with
  | nil => rfl
  | cons entry rest ih =>
    obtain ⟨key, turret⟩ := entry
    by_cases erased : key = handle
    · have passed : (other == key) = false := by simpa [erased] using differs
      rw [List.filter_cons_of_neg (by simp [erased]), List.lookup_cons, passed, ih]
    · rw [List.filter_cons_of_pos (by simp [erased]), List.lookup_cons, List.lookup_cons, ih]

theorem get?_insert_self (turret : Turret) : (store.insert handle turret).get? handle = some turret := by
  rw [get?, insert, List.lookup_cons_self]

theorem get?_insert_of_ne (turret : Turret) {other : TurretId} (differs : other ≠ handle) :
    (store.insert handle turret).get? other = store.get? other := by
  have passed : (other == handle) = false := by simpa using differs
  rw [← store.get?_erase_of_ne differs, get?, insert, List.lookup_cons, passed]
  rfl

def handles : List TurretId :=
  store.entries.map Prod.fst

theorem mem_handles_insert {turret : Turret} {other : TurretId}
    (listed : other ∈ (store.insert handle turret).handles) : other = handle ∨ other ∈ store.handles := by
  obtain rfl | old := List.mem_cons.mp listed
  · exact .inl rfl
  · exact .inr ((List.filter_sublist.map _).subset old)

variable {store}

theorem size_insert (turret : Turret) (absent : handle ∉ store.handles) :
    (store.insert handle turret).size = store.size + 1 := by
  have kept : store.entries.filter (fun entry => entry.1 != handle) = store.entries := by
    refine List.filter_eq_self.mpr fun entry listed => ?_
    exact bne_iff_ne.mpr fun same => absent (same ▸ List.mem_map_of_mem listed)
  rw [size, insert, List.length_cons, erase, kept, size]

section
variable {other : TurretId} (differs : handle ≠ other) (turret another : Turret)
include differs

end

end TurretStore

namespace Engine

/-- What it takes to spawn an actor, and what comes of it. -/
structure Spawns (engine : Engine) (id : ActorId) (params : SpawnParams) : Prop where
  whole : (Procedure.spawn id params).CarriesOut engine
    ((engine.spawn id params).map fun after => (id, after))
  refused : ∀ error, params.validate = .error error → engine.spawn id params = .error (.spawn error)
  /-- Its record comes last, and the log is told. -/
  accepted : params.validate = .ok () → engine.spawn id params = .ok
    { engine with
      actors := engine.actors ++ [params.toActor id]
      log := engine.log.push ⟨engine.clock.tick, .spawned id, params.name ++ " spawned"⟩ }

theorem spawns (engine : Engine) (id : ActorId) (params : SpawnParams) : engine.Spawns id params where
  whole := spawn_carriesOut engine id params
  refused error failed := by
    rw [spawn, Actor.spawn, failed]
    rfl
  accepted valid := by
    rw [spawn, Actor.spawn, valid]
    rfl

section
variable {engine : Engine} (distinct : engine.ids.Nodup) (id : ActorId)
include distinct

end
end Engine

/-- What can be asked for an actor that is live. -/
inductive Request where
  | despawn
  | attachTurret (handle : TurretId) (turret : Turret)
  | acknowledge

namespace Request

def operation (id : ActorId) : Request → Operation
  | .despawn => .despawn id
  | .attachTurret handle turret => .attachTurret id handle turret
  | .acknowledge => .acknowledge id

def change : Request → Actor → Option Actor
  | .despawn, _ => none
  | .attachTurret handle _, actor => some { actor with turret := some handle }
  | .acknowledge, actor => some actor.acknowledge

/-- What becomes of a record if the request is about an actor. -/
def changeOf (request : Request) (id : ActorId) (actor : Actor) : Option Actor :=
  if actor.id = id then request.change actor else some actor

def store : Request → TurretStore → TurretStore
  | .attachTurret handle turret, turrets => turrets.insert handle turret
  | _, turrets => turrets

def events (clock : Clock) (actor : Actor) : Request → List Event
  | .despawn => [⟨clock.tick, .despawned actor.id, actor.name ++ " despawned"⟩]
  | _ => []

def reply (actor : Actor) : Request → Reply
  | .despawn => .despawned actor
  | .attachTurret handle _ => .attached handle
  | .acknowledge => .done

/-- An engine after a request about one of its actors. -/
def after (request : Request) (actor : Actor) (engine : Engine) : Engine :=
  { engine with
    actors := engine.actors.filterMap (request.changeOf actor.id)
    turrets := request.store engine.turrets
    log := engine.log.append (request.events engine.clock actor) }

variable (request : Request)

section
variable {engine : Engine} {front back : List Actor} {actor : Actor}
  (stands : engine.Stands front actor back)
include stands

end

end Request

namespace Request

end Request

namespace Engine

end Engine
end Rotorcraft
