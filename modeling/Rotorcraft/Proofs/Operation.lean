import Mathlib.Data.List.Induction
import Rotorcraft.Proofs.Passes
import Rotorcraft.Proofs.Tick

/-! # Operations on an engine

Everything that a caller can do with an engine is an operation, and a list of them takes a new engine
to every state that it can get into. An operation that is refused leaves the engine as it was.
`Engine.Origin` says once where a live actor comes from; what holds of all actors after any list of
operations follows from it by induction on the list.
-/

namespace Rotorcraft

/-- What a caller can do with an engine. Identifiers are drawn by the caller, and every tick comes with
the answers that the host gives while it runs. -/
inductive Operation where
  | spawn (id : ActorId) (params : SpawnParams)
  | despawn (id : ActorId)
  | tick (answers : HostAnswers)
  | run (answers : List HostAnswers)
  | acknowledge (id : ActorId)
  | setReference (reference : ReferenceFrame)
  | attachTurret (id : ActorId) (handle : TurretId) (turret : Turret)
  | insertTurret (handle : TurretId) (turret : Turret)
  | changeTurret (handle : TurretId) (change : Turret → Turret)
  | removeTurret (handle : TurretId)
  /-- Rewrites anything of an actor but its identity. -/
  | edit (id : ActorId) (change : Actor → Actor)

namespace Operation

def ticks : Operation → Nat
  | .tick _ => 1
  | .run answers => answers.length
  | _ => 0

def drawn? : Operation → Option ActorId
  | .spawn id _ => some id
  | _ => none

/-- The identifier of the actor that an operation rewrites directly. -/
def edited? : Operation → Option ActorId
  | .edit id _ => some id
  | _ => none

/-- An operation does not change the actor of an identifier, though it may remove it. -/
def Spares : Operation → ActorId → Prop
  | .tick _, _ | .run _, _ => False
  | .acknowledge other, id | .attachTurret other _ _, id | .edit other _, id => other ≠ id
  | _, _ => True

end Operation

def drawnIds (operations : List Operation) : List ActorId :=
  operations.filterMap Operation.drawn?

theorem drawnIds_append_singleton (earlier : List Operation) (operation : Operation) :
    drawnIds (earlier ++ [operation]) = drawnIds earlier ++ operation.drawn?.toList := by
  cases drawn : operation.drawn? <;> simp [drawnIds, drawn]

def ticksOf : List Operation → Nat
  | [] => 0
  | operation :: rest => operation.ticks + ticksOf rest

@[simp] theorem ticksOf_nil : ticksOf [] = 0 := rfl

@[simp] theorem ticksOf_append (first second : List Operation) :
    ticksOf (first ++ second) = ticksOf first + ticksOf second := by
  induction first with
  | nil => exact (Nat.zero_add _).symm
  | cons operation rest ih => rw [List.cons_append, ticksOf, ticksOf, ih, Nat.add_assoc]

@[simp] theorem ticksOf_cons (operation : Operation) (rest : List Operation) :
    ticksOf (operation :: rest) = operation.ticks + ticksOf rest := rfl

namespace Engine

def perform (engine : Engine) : Operation → Engine
  | .spawn id params => (engine.spawn id params).toOption.getD engine
  | .despawn id => ((engine.despawn id).map Prod.snd).toOption.getD engine
  | .tick answers => (engine.tickWith answers).engine
  | .run answers => (engine.runWith answers).engine
  | .acknowledge id => (engine.acknowledge id).toOption.getD engine
  | .setReference reference => engine.setReference reference
  | .attachTurret id handle turret => (engine.attachTurret id handle turret).toOption.getD engine
  | .insertTurret handle turret => { engine with turrets := engine.turrets.insert handle turret }
  | .changeTurret handle change => { engine with turrets := engine.turrets.modify handle change }
  | .removeTurret handle => { engine with turrets := engine.turrets.erase handle }
  | .edit id change => engine.modifyActor id fun actor => { change actor with id := actor.id }

def performAll (engine : Engine) (operations : List Operation) : Engine :=
  operations.foldl perform engine

theorem performAll_append (engine : Engine) (first second : List Operation) :
    engine.performAll (first ++ second) = (engine.performAll first).performAll second :=
  List.foldl_append

/-- What every operation passes on, given the operations before it, holds after any of them. -/
theorem performAll_induction {P : List Operation → Engine → Prop} {start : Engine}
    (initial : P [] start)
    (step : ∀ earlier operation, P earlier (start.performAll earlier) →
      P (earlier ++ [operation]) ((start.performAll earlier).perform operation))
    (operations : List Operation) : P operations (start.performAll operations) := by
  induction operations using List.reverseRecOn with
  | nil => exact initial
  | append_singleton earlier operation ih =>
    rw [performAll_append]
    exact step earlier operation ih

/-- Where a live actor comes from after an operation. -/
inductive Origin (engine : Engine) : Operation → Actor → Prop
  | spawned {id : ActorId} {params : SpawnParams} (accepted : params.validate = .ok ()) :
      Origin engine (.spawn id params) (params.toActor id)
  | kept {operation : Operation} {actor : Actor} (live : actor ∈ engine.actors)
      (spared : operation.Spares actor.id) : Origin engine operation actor
  | ticked {answers : HostAnswers} {before : Actor} (host : Host) (live : before ∈ engine.actors) :
      Origin engine (.tick answers)
        (Pipeline.run (engine.advanced.frame host) engine.stages before).2.actor
  | ran {answers : List HostAnswers} {after : Actor}
      (member : after ∈ (engine.runWith answers).engine.actors) : Origin engine (.run answers) after
  | acknowledged {before : Actor} (live : before ∈ engine.actors) :
      Origin engine (.acknowledge before.id) before.acknowledge
  | attached {before : Actor} {handle : TurretId} {turret : Turret} (live : before ∈ engine.actors) :
      Origin engine (.attachTurret before.id handle turret) { before with turret := some handle }
  | edited {before : Actor} {change : Actor → Actor} (live : before ∈ engine.actors) :
      Origin engine (.edit before.id change) { change before with id := before.id }

theorem mem_modifyActor {engine : Engine} {id : ActorId} {change : Actor → Actor} {after : Actor}
    (member : after ∈ (engine.modifyActor id change).actors) :
    (after ∈ engine.actors ∧ id ≠ after.id) ∨
      ∃ before ∈ engine.actors, before.id = id ∧ after = change before := by
  obtain ⟨before, live, rfl⟩ := List.mem_map.mp member
  split
  · next same => exact .inr ⟨before, live, same, rfl⟩
  · next other => exact .inl ⟨live, Ne.symm other⟩

theorem origin_of_mem {engine : Engine} {operation : Operation} {after : Actor}
    (member : after ∈ (engine.perform operation).actors) : engine.Origin operation after := by
  cases operation with
  | spawn id params =>
    simp only [perform, spawn, Actor.spawn] at member
    cases outcome : params.validate with
    | error error =>
      simp only [outcome, Except.map, Except.toOption, Option.getD_none] at member
      exact .kept member trivial
    | ok _ =>
      simp only [outcome, Except.map, Except.toOption, Option.getD_some, List.mem_append,
        List.mem_singleton] at member
      obtain live | rfl := member
      · exact .kept live trivial
      · exact .spawned outcome
  | despawn id =>
    simp only [perform, despawn] at member
    split at member
    · exact .kept member trivial
    · exact .kept (List.mem_of_mem_eraseP member) trivial
  | tick answers =>
    obtain ⟨before, live, host, rfl⟩ := mem_tickWith member
    exact .ticked host live
  | run answers => exact .ran member
  | acknowledge id =>
    simp only [perform, acknowledge] at member
    split at member
    · next absent =>
      refine .kept member fun same => ?_
      simpa [same] using List.find?_eq_none.mp absent after member
    · obtain ⟨live, other⟩ | ⟨before, live, rfl, rfl⟩ := mem_modifyActor member
      · exact .kept live other
      · exact .acknowledged live
  | setReference reference => exact .kept member trivial
  | attachTurret id handle turret =>
    simp only [perform, attachTurret] at member
    split at member
    · next absent =>
      refine .kept member fun same => ?_
      simpa [same] using List.find?_eq_none.mp absent after member
    · obtain ⟨live, other⟩ | ⟨before, live, rfl, rfl⟩ := mem_modifyActor member
      · exact .kept live other
      · exact .attached live
  | insertTurret handle turret => exact .kept member trivial
  | changeTurret handle change => exact .kept member trivial
  | removeTurret handle => exact .kept member trivial
  | edit id change =>
    obtain ⟨live, other⟩ | ⟨before, live, rfl, rfl⟩ := mem_modifyActor member
    · exact .kept live other
    · exact .edited live

/-- What no operation changes of an engine. -/
structure Continues (before after : Engine) : Prop where
  config : after.config = before.config
  host : after.host = before.host
  capacity : after.log.capacity = before.log.capacity
  stages : after.stages.map Stage.cleared = before.stages.map Stage.cleared

namespace Continues

theorem refl (engine : Engine) : engine.Continues engine := ⟨rfl, rfl, rfl, rfl⟩

theorem trans {first second third : Engine} (left : first.Continues second)
    (right : second.Continues third) : first.Continues third where
  config := right.config.trans left.config
  host := right.host.trans left.host
  capacity := right.capacity.trans left.capacity
  stages := right.stages.trans left.stages

theorem standard {before after : Engine} (continues : before.Continues after)
    (standard : before.IsStandard) : after.IsStandard := continues.stages.trans standard

end Continues

theorem continues_tickWith (engine : Engine) (answers : HostAnswers) :
    engine.Continues (engine.tickWith answers).engine :=
  ⟨rfl, rfl, tickWith_capacity engine answers, Pipeline.runAll_cleared _ _⟩

theorem continues_record (engine : Engine) (kind : EventKind) (description : String) :
    engine.Continues (engine.record kind description) :=
  ⟨rfl, rfl, EventLog.capacity_append engine.log [⟨engine.clock.tick, kind, description⟩], rfl⟩

theorem continues_perform (engine : Engine) (operation : Operation) :
    engine.Continues (engine.perform operation) := by
  cases operation with
  | spawn id params =>
    simp only [perform, spawn]
    split
    · exact .refl engine
    · next actor _ =>
      obtain ⟨config, host, capacity, stages⟩ :=
        continues_record engine (.spawned id) (actor.name ++ " spawned")
      exact ⟨config, host, capacity, stages⟩
  | despawn id =>
    simp only [perform, despawn]
    split
    · exact .refl engine
    · next actor _ =>
      obtain ⟨config, host, capacity, stages⟩ :=
        continues_record engine (.despawned id) (actor.name ++ " despawned")
      exact ⟨config, host, capacity, stages⟩
  | tick answers => exact continues_tickWith engine answers
  | run answers =>
    refine runWith_keeps (fun later given kept => ?_) (.refl engine) answers
    exact kept.trans (continues_tickWith later given)
  | acknowledge id =>
    simp only [perform, acknowledge]
    split <;> exact ⟨rfl, rfl, rfl, rfl⟩
  | attachTurret id handle turret =>
    simp only [perform, attachTurret]
    split <;> exact ⟨rfl, rfl, rfl, rfl⟩
  | setReference _ | insertTurret _ _ | changeTurret _ _ | removeTurret _ | edit _ _ =>
    exact ⟨rfl, rfl, rfl, rfl⟩

theorem continues_performAll (engine : Engine) (operations : List Operation) :
    engine.Continues (engine.performAll operations) :=
  performAll_induction (P := fun _ => engine.Continues) (.refl engine)
    (fun _ operation kept => kept.trans (continues_perform _ operation)) operations

/-- The clock counts the ticks that were run. -/
theorem clock_perform (engine : Engine) (operation : Operation) :
    (engine.perform operation).clock.tick = engine.clock.tick + UInt64.ofNat operation.ticks := by
  cases operation with
  | spawn id params =>
    simp only [perform, spawn]
    split <;> exact (UInt64.add_zero _).symm
  | despawn id =>
    simp only [perform, despawn]
    split <;> exact (UInt64.add_zero _).symm
  | tick answers => rfl
  | run answers =>
    have counted := runWith_induction
      (P := fun count later => later.clock.tick = engine.clock.tick + UInt64.ofNat count)
      (fun count later given kept => ?_) 0 (UInt64.add_zero _).symm answers
    · rwa [Nat.zero_add] at counted
    · change later.clock.tick + 1 = _
      rw [kept, UInt64.ofNat_add, UInt64.add_assoc]
      rfl
  | acknowledge id =>
    simp only [perform, acknowledge]
    split <;> exact (UInt64.add_zero _).symm
  | attachTurret id handle turret =>
    simp only [perform, attachTurret]
    split <;> exact (UInt64.add_zero _).symm
  | setReference _ | insertTurret _ _ | changeTurret _ _ | removeTurret _ | edit _ _ =>
    exact (UInt64.add_zero _).symm

theorem clock_performAll (engine : Engine) (operations : List Operation) :
    (engine.performAll operations).clock.tick =
      engine.clock.tick + UInt64.ofNat (ticksOf operations) := by
  induction operations generalizing engine with
  | nil => exact (UInt64.add_zero _).symm
  | cons operation rest ih =>
    change ((engine.perform operation).performAll rest).clock.tick = _
    rw [ih, clock_perform, ticksOf_cons, UInt64.ofNat_add, UInt64.add_assoc]

def ids (engine : Engine) : List ActorId :=
  engine.actors.map (·.id)

theorem ids_tickWith (engine : Engine) (answers : HostAnswers) :
    (engine.tickWith answers).engine.ids = engine.ids := by
  rw [ids, tickWith_actors, passes, List.map_map, List.map_map]
  calc (engine.advanced.framed answers).map
        ((fun actor => actor.id) ∘ (fun pass => pass.actor) ∘
          fun entry => Pipeline.pass entry.1 engine.stages entry.2)
    _ = (engine.advanced.framed answers).map fun entry => entry.2.id := by
      refine List.map_congr_left fun entry _ => ?_
      exact (congrArg (·.id) (Pipeline.pass_actor ..)).trans (Pipeline.run_id entry.1 entry.2 engine.stages)
    _ = ((engine.advanced.framed answers).map Prod.snd).map (·.id) := by rw [List.map_map]; rfl
    _ = engine.ids := by rw [framed_actors]; rfl

theorem ids_modifyActor (engine : Engine) (id : ActorId) (change : Actor → Actor)
    (keeps : ∀ actor, (change actor).id = actor.id) : (engine.modifyActor id change).ids = engine.ids := by
  simp only [ids, modifyActor, List.map_map]
  refine List.map_congr_left fun actor _ => ?_
  simp only [Function.comp_apply]
  split
  · exact keeps actor
  · rfl

/-- Identifiers are only added at the end, as they are drawn. -/
theorem ids_perform (engine : Engine) (operation : Operation) :
    (engine.perform operation).ids.Sublist (engine.ids ++ operation.drawn?.toList) := by
  have whole : engine.ids.Sublist (engine.ids ++ operation.drawn?.toList) :=
    List.sublist_append_left _ _
  cases operation with
  | spawn id params =>
    simp only [perform, spawn, Actor.spawn]
    cases params.validate with
    | error _ => exact whole
    | ok _ =>
      simp [Except.map, Except.toOption, ids, SpawnParams.toActor, Operation.drawn?]
  | despawn id =>
    simp only [perform, despawn]
    split
    · exact whole
    · exact (List.eraseP_sublist.map _).trans whole
  | tick answers =>
    rw [perform, ids_tickWith engine]
    exact whole
  | run answers =>
    have kept := runWith_keeps (P := fun later => later.ids = engine.ids)
      (fun later given kept => (ids_tickWith later given).trans kept) rfl answers
    rw [perform, kept]
    exact whole
  | acknowledge id =>
    simp only [perform, acknowledge]
    split
    · exact whole
    · simp only [Except.toOption, Option.getD_some]
      rw [ids_modifyActor engine id Actor.acknowledge fun actor => rfl]
      exact whole
  | attachTurret id handle turret =>
    simp only [perform, attachTurret]
    split
    · exact whole
    · have same := ids_modifyActor engine id (fun actor => { actor with turret := some handle })
        fun actor => rfl
      exact same ▸ whole
  | setReference _ | insertTurret _ _ | changeTurret _ _ | removeTurret _ => exact whole
  | edit id change =>
    have same := ids_modifyActor engine id (fun actor => { change actor with id := actor.id })
      fun actor => rfl
    exact same ▸ whole

theorem ids_performAll (engine : Engine) (operations : List Operation) :
    (engine.performAll operations).ids.Sublist (engine.ids ++ drawnIds operations) := by
  induction operations generalizing engine with
  | nil => simp [performAll, drawnIds]
  | cons operation rest ih =>
    have first := ids_perform engine operation
    have later := ih (engine.perform operation)
    have all : (engine.perform operation).ids ++ drawnIds rest |>.Sublist
        (engine.ids ++ drawnIds (operation :: rest)) := by
      cases drawn : operation.drawn? <;>
        simpa [drawnIds, List.filterMap_cons, drawn] using first.append_right (drawnIds rest)
    exact later.trans all

/-- Live identifiers were drawn, in this order. -/
theorem ids_sublist_drawn {config : Config} {start : Engine} (new : Engine.new config = .ok start)
    (operations : List Operation) : (start.performAll operations).ids.Sublist (drawnIds operations) := by
  have listed := ids_performAll start operations
  have empty : start.ids = [] := by rw [eq_of_new new]; rfl
  rwa [empty, List.nil_append] at listed

/-- As long as no identifier is drawn twice, no two live actors share one. -/
theorem ids_nodup {config : Config} {start : Engine} (new : Engine.new config = .ok start)
    {operations : List Operation} (fresh : (drawnIds operations).Nodup) :
    (start.performAll operations).ids.Nodup :=
  (ids_sublist_drawn new operations).nodup fresh

end Engine

/-- What an operation returns to its caller. -/
inductive Reply where
  | done
  | refused (error : EngineError)
  | spawned (id : ActorId)
  | despawned (actor : Actor)
  | ticked (reports : List TickReport) (calls : List HostCall)
  | attached (handle : TurretId)
  /-- The turret that a handle stood for. -/
  | turret (turret : Option Turret)
  /-- The record that an identifier stood for. -/
  | record (actor : Option Actor)

namespace Engine

/-- What an operation returns, together with the calls that it makes to the host. -/
def reply (engine : Engine) : Operation → Reply
  | .spawn id params =>
    match engine.spawn id params with
    | .ok _ => .spawned id
    | .error error => .refused error
  | .despawn id =>
    match engine.despawn id with
    | .ok (actor, _) => .despawned actor
    | .error error => .refused error
  | .tick answers => .ticked [(engine.tickWith answers).report] (engine.tickWith answers).calls
  | .run answers => .ticked (engine.runWith answers).reports (engine.runWith answers).calls
  | .acknowledge id =>
    match engine.acknowledge id with
    | .ok _ => .done
    | .error error => .refused error
  | .setReference _ => .done
  | .attachTurret id handle turret =>
    match engine.attachTurret id handle turret with
    | .ok _ => .attached handle
    | .error error => .refused error
  | .insertTurret handle _ => .attached handle
  | .changeTurret handle _ | .removeTurret handle => .turret (engine.turrets.get? handle)
  | .edit id _ => .record (engine.actor? id)

/-- What operations return, one after the other. -/
def replies (engine : Engine) : List Operation → List Reply
  | [] => []
  | operation :: rest => engine.reply operation :: (engine.perform operation).replies rest

end Engine
end Rotorcraft
