import Rotorcraft.Proofs.Operation
import Rotorcraft.Proofs.WellFormed

/-! # Reachable records

Every record of an engine is well formed after any operations that do not rewrite records directly,
and its mode, sub-mode and turret are accounted for by the operations themselves.
-/

namespace Rotorcraft

theorem Actor.acknowledge_persists (actor : Actor) : actor.Persists actor.acknowledge :=
  ⟨rfl, rfl, rfl, rfl, rfl, rfl, rfl, fun _ => rfl,
    (ControlFlags.SameOutside.remove _ _).widen (by decide)⟩

namespace Engine

/-- The actor that an operation attaches a turret to, and the handle of the turret. -/
def attached? (engine : Engine) : Operation → Option (ActorId × TurretId)
  | .attachTurret id handle _ => (engine.actor? id).map fun _ => (id, handle)
  | _ => none

/-- The turrets that operations attach, the last one first. -/
def attachments (start : Engine) : List Operation → List (ActorId × TurretId)
  | [] => []
  | operation :: rest => (start.perform operation).attachments rest ++ (start.attached? operation).toList

/-- The handle that was last returned for an actor. -/
def lastHandle? (start : Engine) (operations : List Operation) (id : ActorId) : Option TurretId :=
  (start.attachments operations).lookup id

theorem attachments_append (start : Engine) (first second : List Operation) :
    start.attachments (first ++ second) =
      (start.performAll first).attachments second ++ start.attachments first := by
  induction first generalizing start with
  | nil => exact (List.append_nil _).symm
  | cons operation rest ih =>
    rw [List.cons_append, attachments, attachments, ih, List.append_assoc]
    rfl

/-- One more operation attaches at most one more turret. -/
theorem lastHandle?_append_singleton (start : Engine) (earlier : List Operation) (operation : Operation)
    (id : ActorId) : start.lastHandle? (earlier ++ [operation]) id =
      (((start.performAll earlier).attached? operation).toList.lookup id).or
        (start.lastHandle? earlier id) := by
  rw [lastHandle?, attachments_append, attachments, List.lookup_append]
  rfl

/-- An operation that spares an actor attaches no turret to it. -/
theorem lookup_attached_of_spares (engine : Engine) {operation : Operation} {id : ActorId}
    (spared : operation.Spares id) : (engine.attached? operation).toList.lookup id = none := by
  cases operation with
  | attachTurret other handle turret =>
    cases live : engine.actor? other with
    | none => simp [attached?, live]
    | some actor =>
      have differs : (id == other) = false := beq_eq_false_iff_ne.mpr (Ne.symm spared)
      simp [attached?, live, List.lookup_cons, differs]
  | _ => rfl

theorem isSome_actor? {engine : Engine} {actor : Actor} (live : actor ∈ engine.actors) :
    (engine.actor? actor.id).isSome :=
  List.find?_isSome.mpr ⟨actor, live, beq_self_eq_true _⟩

theorem mem_ids_of_actor? {engine : Engine} {id : ActorId} {actor : Actor}
    (found : engine.actor? id = some actor) : id ∈ engine.ids := by
  have same := List.find?_some found
  exact List.mem_map.mpr ⟨actor, List.mem_of_find?_eq_some found, beq_iff_eq.mp same⟩

/-- Turrets are attached to actors whose identifiers were drawn before. -/
theorem lastHandle?_of_undrawn {config : Config} {start : Engine} (new : Engine.new config = .ok start)
    {id : ActorId} {operations : List Operation} (undrawn : id ∉ drawnIds operations) :
    start.lastHandle? operations id = none := by
  induction operations using List.reverseRecOn with
  | nil => rfl
  | append_singleton earlier operation ih =>
    simp only [drawnIds, List.filterMap_append, List.mem_append, not_or] at undrawn
    rw [lastHandle?_append_singleton, ih undrawn.1, Option.or_none]
    cases operation with
    | attachTurret other handle turret =>
      cases found : (start.performAll earlier).actor? other with
      | none => simp [attached?, found]
      | some actor =>
        have differs : id ≠ other := by
          rintro rfl
          exact undrawn.1 ((ids_sublist_drawn new earlier).subset (mem_ids_of_actor? found))
        simp [attached?, found, List.lookup_cons, beq_eq_false_iff_ne.mpr differs]
    | _ => rfl

/-- A run leaves alone of an actor what no stage changes. -/
theorem exists_persists_of_mem_runWith {engine : Engine} (standard : engine.IsStandard)
    (answers : List HostAnswers) :
    ∀ after ∈ (engine.runWith answers).engine.actors,
      ∃ before ∈ engine.actors, before.Persists after := by
  refine standard.actors_runWith (fun frame stages between kinds origin => ?_)
    (fun actor live => ⟨actor, live, .refl actor⟩) answers
  obtain ⟨before, live, persists⟩ := origin
  exact ⟨before, live, persists.trans (Pipeline.run_persists kinds between)⟩

/-- The operations account for the mode, the sub-mode and the turret of an actor. -/
structure Accounts (start : Engine) (operations : List Operation) (actor : Actor) : Prop where
  /-- It has the mode and the sub-mode that it was spawned with. -/
  spawned : ∃ params, .spawn actor.id params ∈ operations ∧ params.validate = .ok () ∧
    actor.status.selector = params.mode ∧ actor.flags.subMode = params.subMode
  /-- It holds the handle that was last returned for it, and none before. -/
  turret : actor.turret = start.lastHandle? operations actor.id

namespace Accounts

variable {start : Engine} {earlier : List Operation} {before after : Actor}

/-- What persists stays accounted for, as long as no turret is attached. -/
theorem persists (accounted : start.Accounts earlier before) (persists : before.Persists after)
    {operation : Operation}
    (detached : ((start.performAll earlier).attached? operation).toList.lookup before.id = none) :
    start.Accounts (earlier ++ [operation]) after where
  spawned := by
    obtain ⟨params, member, valid, mode, subMode⟩ := accounted.spawned
    rw [persists.id, persists.status, persists.flags.subMode_eq (by decide)]
    exact ⟨params, List.mem_append_left _ member, valid, mode, subMode⟩
  turret := by
    rw [persists.id, persists.turret, lastHandle?_append_singleton, detached, Option.none_or]
    exact accounted.turret

theorem attached (accounted : start.Accounts earlier before)
    (live : before ∈ (start.performAll earlier).actors) (handle : TurretId) (turret : Turret) :
    start.Accounts (earlier ++ [.attachTurret before.id handle turret])
      { before with turret := some handle } where
  spawned := by
    obtain ⟨params, member, rest⟩ := accounted.spawned
    exact ⟨params, List.mem_append_left _ member, rest⟩
  turret := by
    obtain ⟨found, same⟩ := Option.isSome_iff_exists.mp (isSome_actor? live)
    simp [lastHandle?_append_singleton, attached?, same]

end Accounts

/-- An operation that draws a fresh identifier and rewrites no record directly keeps all actors well
formed and accounted for. -/
theorem accounts_of_origin {config : Config} {start : Engine} (new : Engine.new config = .ok start)
    {earlier : List Operation} {operation : Operation}
    (kept : ∀ actor ∈ (start.performAll earlier).actors,
      actor.WellFormed ∧ start.Accounts earlier actor)
    (fresh : ∀ id ∈ operation.drawn?, id ∉ drawnIds earlier) (unedited : operation.edited? = none)
    {after : Actor} (origin : (start.performAll earlier).Origin operation after) :
    after.WellFormed ∧ start.Accounts (earlier ++ [operation]) after := by
  have standard := (continues_performAll start earlier).standard (standard_of_new new)
  cases origin with
  | @spawned id params valid =>
    have accepted := SpawnParams.accepted_of_validate valid
    refine ⟨.spawned accepted id, ⟨params, ?_, valid, ?_, ?_⟩, ?_⟩
    · exact List.mem_append_right _ (List.mem_singleton_self _)
    · exact Actor.selector_spawn accepted
    · exact Actor.subMode_spawn accepted
    · rw [lastHandle?_append_singleton]
      exact (lastHandle?_of_undrawn new (fresh id rfl)).symm
  | kept live spared =>
    obtain ⟨formed, accounted⟩ := kept after live
    exact ⟨formed, accounted.persists (.refl after) (lookup_attached_of_spares _ spared)⟩
  | @ticked answers before host live =>
    obtain ⟨formed, accounted⟩ := kept before live
    exact ⟨formed.run standard, accounted.persists (Pipeline.run_persists standard before) rfl⟩
  | @ran answers _ member =>
    obtain ⟨before, live, persists⟩ := exists_persists_of_mem_runWith standard answers after member
    have formed := standard.actors_runWith (fun frame stages actor kinds formed => formed.run kinds)
      (fun actor live => (kept actor live).1) answers after member
    exact ⟨formed, (kept before live).2.persists persists rfl⟩
  | @acknowledged before live =>
    obtain ⟨formed, accounted⟩ := kept before live
    exact ⟨formed.acknowledged, accounted.persists before.acknowledge_persists rfl⟩
  | @attached before handle turret live =>
    obtain ⟨formed, accounted⟩ := kept before live
    exact ⟨formed.attached _, accounted.attached live handle turret⟩
  | edited _ => cases unedited

/-- As long as identifiers are fresh and no record is rewritten directly, all live actors have
identifiers of their own, are well formed and are accounted for by the operations. -/
theorem reachable_actors {config : Config} {start : Engine} (new : Engine.new config = .ok start)
    {operations : List Operation} (fresh : (drawnIds operations).Nodup)
    (unedited : ∀ operation ∈ operations, operation.edited? = none) :
    (start.performAll operations).ids.Nodup ∧
      ∀ actor ∈ (start.performAll operations).actors,
        actor.WellFormed ∧ start.Accounts operations actor := by
  refine ⟨ids_nodup new fresh, ?_⟩
  induction operations using List.reverseRecOn with
  | nil =>
    intro actor live
    rw [show start.performAll [] = start from rfl, eq_of_new new] at live
    cases live
  | append_singleton earlier operation ih =>
    rw [drawnIds_append_singleton, List.nodup_append] at fresh
    have kept := ih fresh.1 fun other member => unedited other (List.mem_append_left _ member)
    intro after live
    rw [performAll_append] at live
    refine accounts_of_origin new kept (fun id drawn member => ?_)
      (unedited _ (List.mem_append_right _ (List.mem_singleton_self _))) (origin_of_mem live)
    exact fresh.2.2 id member id (Option.mem_toList.mpr drawn) rfl

/-- An actor with a turret whose timer has fired. -/
theorem reachable_after_firing : ∃ start, Engine.new {} = .ok start ∧
    let operations : List Operation :=
      [.spawn ⟨.ofNat 1⟩ { name := "gunship", mode := 1, subMode := 2, timers := { fire := some 1 } },
        .attachTurret ⟨.ofNat 1⟩ ⟨.ofNat 2⟩ {}, .tick fun _ => {}]
    (start.performAll operations).actors.map (·.pendingEvent) = [some ⟨0x0101⟩] ∧
      (start.performAll operations).actors.map (·.turret) = [some ⟨.ofNat 2⟩] ∧
      ∀ actor ∈ (start.performAll operations).actors,
        actor.WellFormed ∧ start.Accounts operations actor :=
  ⟨_, rfl, by decide, by decide, (@reachable_actors {} _ rfl _ (by decide) (by decide)).2⟩

end Engine
end Rotorcraft
