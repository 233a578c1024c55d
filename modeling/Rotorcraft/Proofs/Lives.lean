import Rotorcraft.Proofs.Lists
import Rotorcraft.Proofs.Turns

/-! # The life of an actor

From its spawn on, an actor takes its turns, one in every tick until it is removed. In between it can be
acknowledged and given other turrets, but as long as nobody rewrites it directly, nothing else happens to
it. So what is true of its turns is shown by induction on them: `Engine.life_induction` carries a property
of the turns so far together with one that ties the live record to them.
-/

namespace Rotorcraft

/-- The turns of one actor during some ticks, in order. -/
def turnsOf (id : ActorId) (moments : List Moment) : List Turn :=
  (moments.flatMap Moment.turns).filter fun turn => turn.before.id = id

theorem turnsOf_append (id : ActorId) (first second : List Moment) :
    turnsOf id (first ++ second) = turnsOf id first ++ turnsOf id second := by
  rw [turnsOf, List.flatMap_append, List.filter_append]
  rfl

/-- In a tick, an actor has one turn if it is live and none otherwise. -/
theorem turnsOf_singleton {moment : Moment} (distinct : moment.engine.ids.Nodup) (id : ActorId) :
    (turnsOf id [moment] = [] ∧ id ∉ moment.engine.ids) ∨
      ∃ turn ∈ moment.turns, turn.before.id = id ∧ turnsOf id [moment] = [turn] := by
  have ids : moment.turns.map (·.before.id) = moment.engine.ids := by
    rw [Engine.ids, ← moment.map_before_turns, List.map_map]
    rfl
  rw [turnsOf, List.flatMap_singleton]
  by_cases live : id ∈ moment.engine.ids
  · rw [← ids] at live distinct
    obtain ⟨turn, taken, rfl⟩ := List.mem_map.mp live
    exact .inr ⟨turn, taken, rfl, filter_key_eq_singleton distinct taken⟩
  · refine .inl ⟨List.filter_eq_nil_iff.mpr fun turn taken same => live ?_, live⟩
    rw [← ids]
    exact List.mem_map.mpr ⟨turn, taken, of_decide_eq_true same⟩

namespace Engine

/-- Turns are taken by actors whose identifiers were drawn. -/
theorem id_mem_drawnIds {config : Config} {start : Engine} (new : Engine.new config = .ok start)
    {operations : List Operation} {turn : Turn}
    (taken : turn ∈ (start.moments operations).flatMap Moment.turns) :
    turn.before.id ∈ drawnIds operations := by
  suffices all : (∀ id ∈ (start.performAll operations).ids, id ∈ drawnIds operations) ∧
      ∀ turn ∈ (start.moments operations).flatMap Moment.turns, turn.before.id ∈ drawnIds operations from
    all.2 turn taken
  refine moments_induction
    (P := fun past engine => (∀ id ∈ engine.ids, id ∈ drawnIds operations) ∧
      ∀ turn ∈ past.flatMap Moment.turns, turn.before.id ∈ drawnIds operations) ?_ ?_ ?_
  · rw [eq_of_new new]
    exact ⟨by simp [ids], by simp⟩
  · rintro past moment ⟨drawn, before⟩
    refine ⟨?_, fun turn taken => ?_⟩
    · rw [Moment.ticked, ids_tickWith]
      exact drawn
    · rw [List.flatMap_append, List.flatMap_singleton, List.mem_append] at taken
      obtain early | now := taken
      · exact before turn early
      · exact drawn _ (List.mem_map_of_mem (Moment.mem_turns now).1)
  · rintro earlier operation later split - ⟨drawn, before⟩
    refine ⟨fun id live => ?_, before⟩
    have listed := (ids_perform _ operation).subset live
    obtain old | fresh := List.mem_append.mp listed
    · exact drawn id old
    · rw [split]
      exact List.mem_filterMap.mpr ⟨operation, by simp, Option.mem_toList.mp fresh⟩

/-- What is known of an actor after its turns so far: something of the turns, and, if it is still live,
something of its record. -/
structure Lives (engine : Engine) (config : Config) (id : ActorId) (Q : List Turn → Prop)
    (P : List Turn → Actor → Prop) (past : List Turn) : Prop where
  standard : engine.IsStandard
  config : engine.config = config
  distinct : engine.ids.Nodup
  turns : Q past
  record : ∀ actor ∈ engine.actors, actor.id = id → P past actor

section
variable {config : Config} {id : ActorId} {Q : List Turn → Prop} {P : List Turn → Actor → Prop}

/-- In a tick, an actor that is still live takes one more turn. -/
theorem Lives.ticked {moment : Moment} {past : List Turn} (lives : moment.engine.Lives config id Q P past)
    (turn : ∀ past frame actor, frame.config = config → actor.id = id → Q past → P past actor →
      let turn : Turn := ⟨frame, actor, Pipeline.pass frame Stage.standard actor⟩
      Q (past ++ [turn]) ∧ P (past ++ [turn]) turn.after) :
    moment.ticked.engine.Lives config id Q P (past ++ turnsOf id [moment]) := by
  have standard : moment.ticked.engine.IsStandard := lives.standard.tickWith moment.answers
  have ids : moment.ticked.engine.ids = moment.engine.ids := ids_tickWith moment.engine moment.answers
  have distinct : moment.ticked.engine.ids.Nodup := ids ▸ lives.distinct
  obtain ⟨none, absent⟩ | ⟨now, taken, same, only⟩ := turnsOf_singleton lives.distinct id
  · rw [none, List.append_nil]
    refine ⟨standard, lives.config, distinct, lives.turns, fun actor live same => ?_⟩
    rw [← ids] at absent
    exact absurd (List.mem_map.mpr ⟨actor, live, same⟩) absent
  · obtain ⟨live, pass, host, frame⟩ := Moment.mem_turns taken
    have settings : now.frame.config = config := by
      rw [frame]
      exact lives.config
    have own : now = ⟨now.frame, now.before, Pipeline.pass now.frame Stage.standard now.before⟩ := by
      rw [← lives.standard.pass_eq, ← pass]
    obtain ⟨turns, record⟩ :=
      turn past now.frame now.before settings same lives.turns (lives.record now.before live same)
    rw [← own] at turns record
    rw [only]
    refine ⟨standard, lives.config, distinct, turns, fun actor member sameId => ?_⟩
    obtain ⟨other, otherTaken, rfl⟩ := Moment.exists_turn member
    rw [Moment.id_after lives.standard otherTaken] at sameId
    rw [Moment.turn_unique lives.distinct otherTaken taken (sameId.trans same.symm)]
    exact record

/-- In between, an actor is acknowledged or given a turret at most. -/
theorem Lives.perform {engine : Engine} {past : List Turn} (lives : engine.Lives config id Q P past)
    (acknowledged : ∀ past actor, P past actor → P past actor.acknowledge)
    (attached : ∀ past actor handle, P past actor → P past { actor with turret := some handle })
    {operation : Operation} (instant : operation.ticks = 0) (undrawn : operation.drawn? ≠ some id)
    (unedited : operation.edited? ≠ some id) (distinct : (engine.perform operation).ids.Nodup) :
    (engine.perform operation).Lives config id Q P past := by
  have continues := continues_perform engine operation
  refine ⟨continues.standard lives.standard, continues.config.trans lives.config, distinct, lives.turns,
    fun actor member same => ?_⟩
  cases origin_of_mem member with
  | spawned _ => exact absurd (congrArg some same) undrawn
  | kept live _ => exact lives.record actor live same
  | ticked _ _ => cases instant
  | ran live =>
    obtain rfl := List.length_eq_zero_iff.mp instant
    exact lives.record actor live same
  | @acknowledged before live => exact acknowledged past before (lives.record before live same)
  | @attached before handle _ live => exact attached past before handle (lives.record before live same)
  | edited live => exact absurd (congrArg some same) unedited

/-- The identifier of a new actor is drawn at its spawn only, and none that is in use is drawn later. -/
theorem fresh_around_spawn {start : Engine} (new : Engine.new config = .ok start) {params : SpawnParams}
    {before later : List Operation} (fresh : (drawnIds (before ++ .spawn id params :: later)).Nodup) :
    id ∉ drawnIds before ∧ id ∉ drawnIds later ∧
      ((start.performAll (before ++ [.spawn id params])).ids ++ drawnIds later).Nodup := by
  have regrouped : drawnIds (before ++ .spawn id params :: later) = drawnIds before ++ id :: drawnIds later :=
    List.filterMap_append
  have prior : drawnIds (before ++ [.spawn id params]) = drawnIds before ++ [id] := List.filterMap_append
  rw [regrouped] at fresh
  obtain ⟨_, tail, apart⟩ := List.nodup_append.mp fresh
  refine ⟨fun drawn => apart id drawn id (List.mem_cons_self ..) rfl, (List.nodup_cons.mp tail).1, ?_⟩
  rw [List.append_cons, ← prior] at fresh
  exact fresh.sublist ((ids_sublist_drawn new _).append_right _)

/-- Before its spawn, an actor has no turns. -/
theorem turnsOf_before_spawn {start : Engine} (new : Engine.new config = .ok start) {params : SpawnParams}
    {before : List Operation} (unused : id ∉ drawnIds before) :
    turnsOf id (start.moments (before ++ [.spawn id params])) = [] := by
  rw [moments_append_singleton, momentsOf_eq_nil _ rfl, List.append_nil]
  refine List.filter_eq_nil_iff.mpr fun turn taken same => unused ?_
  rw [← of_decide_eq_true same]
  exact id_mem_drawnIds new taken

/-- A new actor is as its parameters say. -/
theorem Lives.spawned {start : Engine} (new : Engine.new config = .ok start) {params : SpawnParams}
    {before : List Operation} (unused : id ∉ drawnIds before)
    (distinct : (start.performAll (before ++ [.spawn id params])).ids.Nodup)
    (initial : Q []) (record : P [] (params.toActor id)) :
    (start.performAll (before ++ [.spawn id params])).Lives config id Q P [] := by
  have continues := continues_performAll start (before ++ [.spawn id params])
  have settings : start.config = config := by rw [eq_of_new new]
  refine ⟨continues.standard (standard_of_new new), continues.config.trans settings, distinct, initial,
    fun actor member same => ?_⟩
  rw [performAll_append] at member
  have origin : (start.performAll before).Origin (.spawn id params) actor := origin_of_mem member
  cases origin with
  | spawned _ => exact record
  | kept live _ =>
    have drawn := (ids_sublist_drawn new before).subset (List.mem_map_of_mem live)
    rw [same] at drawn
    exact absurd drawn unused

/-- As long as only fresh identifiers are drawn, they stay distinct. -/
theorem distinct_of_fresh {start : Engine} {operations earlier rest : List Operation} {operation : Operation}
    (fresh : (start.ids ++ drawnIds operations).Nodup) (split : operations = earlier ++ operation :: rest) :
    ((start.performAll earlier).perform operation).ids.Nodup := by
  have regrouped : operations = (earlier ++ [operation]) ++ rest := by simp [split]
  have listed := ids_performAll start (earlier ++ [operation])
  rw [performAll_append] at listed
  refine (fresh.sublist ?_).sublist listed
  rw [regrouped]
  exact List.Sublist.append_left ((List.sublist_append_left _ rest).filterMap _) _

/-- What is known of an actor goes on to be known, as long as its turns, acknowledgements and new turrets pass
it on, nobody rewrites the actor directly and its identifier is not drawn again. -/
theorem Lives.performAll {start : Engine} {operations : List Operation} (lives : start.Lives config id Q P [])
    (fresh : (start.ids ++ drawnIds operations).Nodup) (undrawn : id ∉ drawnIds operations)
    (unedited : ∀ operation ∈ operations, operation.edited? ≠ some id)
    (turn : ∀ past frame actor, frame.config = config → actor.id = id → Q past → P past actor →
      let turn : Turn := ⟨frame, actor, Pipeline.pass frame Stage.standard actor⟩
      Q (past ++ [turn]) ∧ P (past ++ [turn]) turn.after)
    (acknowledged : ∀ past actor, P past actor → P past actor.acknowledge)
    (attached : ∀ past actor handle, P past actor → P past { actor with turret := some handle }) :
    (start.performAll operations).Lives config id Q P (turnsOf id (start.moments operations)) := by
  refine moments_induction
    (P := fun past engine => engine.Lives config id Q P (turnsOf id past)) lives ?_ ?_
  · intro past moment known
    rw [turnsOf_append]
    exact known.ticked turn
  · rintro earlier operation rest split instant known
    have performed : operation ∈ operations := by simp [split]
    refine known.perform acknowledged attached instant ?_ (unedited operation performed)
      (distinct_of_fresh fresh split)
    exact fun drawn => undrawn (List.mem_filterMap.mpr ⟨operation, performed, drawn⟩)

/-- What holds of an actor when it is spawned, and is passed on by its turns, by acknowledgements and by new
turrets, holds as long as it is live and nobody rewrites it directly. -/
theorem life_induction {start : Engine} (new : Engine.new config = .ok start) {params : SpawnParams}
    {before later : List Operation} (fresh : (drawnIds (before ++ .spawn id params :: later)).Nodup)
    (unedited : ∀ operation ∈ later, operation.edited? ≠ some id)
    (initial : Q []) (spawned : P [] (params.toActor id))
    (turn : ∀ past frame actor, frame.config = config → actor.id = id → Q past → P past actor →
      let turn : Turn := ⟨frame, actor, Pipeline.pass frame Stage.standard actor⟩
      Q (past ++ [turn]) ∧ P (past ++ [turn]) turn.after)
    (acknowledged : ∀ past actor, P past actor → P past actor.acknowledge)
    (attached : ∀ past actor handle, P past actor → P past { actor with turret := some handle }) :
    let operations := before ++ .spawn id params :: later
    (start.performAll operations).Lives config id Q P (turnsOf id (start.moments operations)) := by
  intro operations
  have regrouped : operations = (before ++ [.spawn id params]) ++ later := by simp [operations]
  obtain ⟨unused, undrawn, distinct⟩ := fresh_around_spawn new fresh
  have born := Lives.spawned new unused (List.nodup_append.mp distinct).1 initial spawned
  rw [regrouped, moments_append, turnsOf_append, turnsOf_before_spawn new unused, List.nil_append,
    performAll_append]
  exact born.performAll distinct undrawn unedited turn acknowledged attached

end

/-- The turns of an actor are in the ticks that follow its spawn, one in each of them as long as it is
live. -/
structure TakesTurns (start : Engine) (id : ActorId) (past : List Moment) (engine : Engine) : Prop where
  distinct : engine.ids.Nodup
  clock : engine.clock.tick = start.clock.tick + UInt64.ofNat past.length
  every : id ∈ engine.ids → (turnsOf id past).length = past.length
  ticks : (turnsOf id past).map (·.frame.clock.tick) =
    (List.range (turnsOf id past).length).map fun count => start.clock.tick + UInt64.ofNat (count + 1)

namespace TakesTurns

variable {start : Engine} {id : ActorId} {past : List Moment}

/-- In the next tick, an actor that is still live has its next turn. -/
theorem ticked {moment : Moment} (takes : start.TakesTurns id past moment.engine) :
    start.TakesTurns id (past ++ [moment]) moment.ticked.engine := by
  have ids : moment.ticked.engine.ids = moment.engine.ids := ids_tickWith moment.engine moment.answers
  have next : moment.ticked.engine.clock.tick = start.clock.tick + UInt64.ofNat (past.length + 1) := by
    change moment.engine.clock.tick + 1 = _
    rw [takes.clock, UInt64.add_assoc, UInt64.ofNat_add]
    rfl
  refine ⟨ids ▸ takes.distinct, by rw [List.length_append]; exact next, ?_, ?_⟩
  · intro live
    rw [ids] at live
    obtain ⟨_, absent⟩ | ⟨turn, _, _, only⟩ := turnsOf_singleton takes.distinct id
    · exact absurd live absent
    · rw [turnsOf_append, only, List.length_append, List.length_append, takes.every live]
      rfl
  · rw [turnsOf_append]
    obtain ⟨none, _⟩ | ⟨turn, taken, rfl, only⟩ := turnsOf_singleton takes.distinct id
    · rw [none, List.append_nil]
      exact takes.ticks
    · obtain ⟨member, _, host, frame⟩ := Moment.mem_turns taken
      have current : turn.frame.clock.tick = moment.ticked.engine.clock.tick := by
        rw [frame]
        rfl
      have every := takes.every (List.mem_map_of_mem member)
      rw [only, List.map_append, takes.ticks, List.length_append, List.length_singleton, List.range_succ,
        List.map_append, List.map_singleton, List.map_singleton, current, next, every]

/-- In between, no time passes, and nobody gets an identifier that is in use. -/
theorem perform {engine : Engine} (takes : start.TakesTurns id past engine) {operation : Operation}
    (instant : operation.ticks = 0) (undrawn : operation.drawn? ≠ some id)
    (distinct : (engine.perform operation).ids.Nodup) :
    start.TakesTurns id past (engine.perform operation) := by
  refine ⟨distinct, ?_, fun live => ?_, takes.ticks⟩
  · rw [clock_perform, instant, takes.clock]
    exact UInt64.add_zero _
  · have listed := (ids_perform _ operation).subset live
    obtain old | fresh := List.mem_append.mp listed
    · exact takes.every old
    · exact absurd (Option.mem_toList.mp fresh) undrawn

/-- An actor takes its turns as long as its identifier is not drawn again. -/
theorem performAll {operations : List Operation} (fresh : (start.ids ++ drawnIds operations).Nodup)
    (undrawn : id ∉ drawnIds operations) :
    start.TakesTurns id (start.moments operations) (start.performAll operations) := by
  refine moments_induction (P := start.TakesTurns id) ?_ (fun past moment takes => takes.ticked) ?_
  · exact ⟨(List.nodup_append.mp fresh).1, (UInt64.add_zero _).symm, fun _ => rfl, rfl⟩
  · rintro earlier operation rest split instant takes
    refine takes.perform instant ?_ (distinct_of_fresh fresh split)
    exact fun drawn => undrawn (List.mem_filterMap.mpr ⟨operation, by simp [split], drawn⟩)

end TakesTurns

/-- From its spawn on, an actor takes its turns. -/
theorem takesTurns_performAll {config : Config} {start : Engine} (new : Engine.new config = .ok start)
    {id : ActorId} {params : SpawnParams} {before later : List Operation}
    (fresh : (drawnIds (before ++ .spawn id params :: later)).Nodup) :
    let operations := before ++ .spawn id params :: later
    (turnsOf id (start.moments operations)).map (·.frame.clock.tick) =
        (List.range (turnsOf id (start.moments operations)).length).map (fun count =>
          (start.performAll before).clock.tick + UInt64.ofNat (count + 1)) ∧
      (id ∈ (start.performAll operations).ids →
        (turnsOf id (start.moments operations)).length = ticksOf later) := by
  intro operations
  have regrouped : operations = (before ++ [.spawn id params]) ++ later := by simp [operations]
  let born := start.performAll (before ++ [.spawn id params])
  have clock : born.clock.tick = (start.performAll before).clock.tick := by
    change (start.performAll (before ++ [.spawn id params])).clock.tick = _
    rw [performAll_append]
    exact (clock_perform _ (.spawn id params)).trans (UInt64.add_zero _)
  obtain ⟨unused, undrawn, distinct⟩ := fresh_around_spawn new fresh
  have takes : born.TakesTurns id (born.moments later) (born.performAll later) := .performAll distinct undrawn
  have turns : turnsOf id (start.moments operations) = turnsOf id (born.moments later) := by
    rw [regrouped, moments_append, turnsOf_append, turnsOf_before_spawn new unused, List.nil_append]
  rw [turns, ← clock]
  refine ⟨takes.ticks, fun live => ?_⟩
  rw [regrouped, performAll_append] at live
  rw [takes.every live, length_moments]

end Engine
end Rotorcraft
