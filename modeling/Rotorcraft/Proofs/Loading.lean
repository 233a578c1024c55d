import Rotorcraft.Command
import Rotorcraft.Proofs.Atomicity
import Rotorcraft.Proofs.Capacity

/-! # Loading a scenario

The actors of a scenario are added one after the other, each with its turret, up to the first one that is
refused. What an engine holds after some of them is what the scenario with these actors alone describes, so
nothing that is added later disturbs what is there. Whether a scenario is refused, and with which error, does not
depend on the identifiers that are drawn; therefore all commands on a file agree on whether it can be set up.
-/

namespace Rotorcraft

/-- Identifiers of which the first so many are drawn once each. -/
structure IdSupply.Fresh (ids : IdSupply) (count : Nat) : Prop where
  actor : ∀ first second, first < count → second < count → ids.actor first = ids.actor second → first = second
  turret : ∀ first second, first < count → second < count → ids.turret first = ids.turret second → first = second

theorem IdSupply.Fresh.mono {ids : IdSupply} {count fewer : Nat} (fresh : ids.Fresh count) (less : fewer ≤ count) :
    ids.Fresh fewer where
  actor first second low high := fresh.actor first second (by omega) (by omega)
  turret first second low high := fresh.turret first second (by omega) (by omega)

section
variable {ids : IdSupply} {count index : Nat} (fresh : ids.Fresh (count + 1)) (earlier : index < count)
include fresh earlier

theorem IdSupply.Fresh.actor_ne : ids.actor index ≠ ids.actor count := by
  intro same
  have equal := fresh.actor _ _ (by omega) (by omega) same
  omega

theorem IdSupply.Fresh.turret_ne : ids.turret index ≠ ids.turret count := by
  intro same
  have equal := fresh.turret _ _ (by omega) (by omega) same
  omega

end

namespace Scenario

/-- A scenario of which nothing is refused. -/
structure Valid (scenario : Scenario) : Prop where
  config : scenario.config.validate = .ok ()
  actors : ∀ entry ∈ scenario.actors, entry.params.validate = .ok ()

/-- What is reported of a scenario: the error of its settings or, if there is none, that of its first actor that
is refused. -/
inductive Reports (scenario : Scenario) : ScenarioError → Prop where
  | config {error : ConfigError} (refused : scenario.config.validate = .error error) :
      Reports scenario (.config scenario.name error)
  | actor {index : Nat} {entry : ScenarioActor} {error : SpawnError}
      (accepted : scenario.config.validate = .ok ())
      (earlier : ∀ other ∈ scenario.actors.take index, other.params.validate = .ok ())
      (listed : scenario.actors[index]? = some entry) (refused : entry.params.validate = .error error) :
      Reports scenario (.actor index (.spawn error))

/-- The events that tell of the actors of a scenario. -/
def announcements (scenario : Scenario) (ids : IdSupply) : List Event :=
  scenario.actors.mapIdx fun index entry =>
    ⟨0, .spawned (ids.actor index), entry.params.name ++ " spawned"⟩

/-- An engine of a scenario, as far as it does not matter whether identifiers are distinct. -/
structure Prepared (scenario : Scenario) (host : Host) (ids : IdSupply) (engine : Engine) : Prop where
  clock : engine.clock.tick = 0
  config : engine.config = scenario.config
  reference : engine.reference = scenario.reference
  host : engine.host = host
  stages : engine.stages = Stage.standard
  capacity : engine.log.capacity = scenario.config.maxEvents
  log : engine.log.toList = EventLog.newest scenario.config.maxEvents (scenario.announcements ids)

/-- The engine that a scenario describes. -/
structure Loaded (scenario : Scenario) (host : Host) (ids : IdSupply) (engine : Engine) : Prop
    extends Prepared scenario host ids engine where
  /-- There is one record for each actor, with a handle if and only if the actor has a turret. -/
  actors : engine.actors = scenario.actors.mapIdx fun index entry =>
    { entry.params.toActor (ids.actor index) with turret := entry.turret.map fun _ => ids.turret index }
  /-- Apart from the handle, the record is the one that is spawned from the parameters. -/
  spawned : ∀ entry ∈ scenario.actors, ∀ id, Actor.spawn id entry.params = .ok (entry.params.toActor id)
  resolved : ∀ index entry turret, scenario.actors[index]? = some entry → entry.turret = some turret →
    engine.turrets.get? (ids.turret index) = some turret
  handles : ∀ handle ∈ engine.turrets.handles, ∃ index < scenario.actors.length, handle = ids.turret index
  turrets : engine.turrets.size = scenario.actors.countP fun entry => entry.turret.isSome

variable {scenario : Scenario} {host : Host} {ids : IdSupply} {engine : Engine}

theorem valid_or_reports (scenario : Scenario) : scenario.Valid ∨ ∃ error, scenario.Reports error := by
  have search (entries : List ScenarioActor) : (∀ entry ∈ entries, entry.params.validate = .ok ()) ∨
      ∃ index entry error, (∀ other ∈ entries.take index, other.params.validate = .ok ()) ∧
        entries[index]? = some entry ∧ entry.params.validate = .error error := by
    induction entries with
    | nil => exact .inl fun _ listed => absurd listed List.not_mem_nil
    | cons entry rest ih =>
      cases outcome : entry.params.validate with
      | error error => exact .inr ⟨0, entry, error, by simp, rfl, outcome⟩
      | ok _ =>
        rcases ih with accepted | ⟨index, other, error, earlier, listed, refused⟩
        · exact .inl (List.forall_mem_cons.mpr ⟨outcome, accepted⟩)
        · exact .inr ⟨index + 1, other, error, List.forall_mem_cons.mpr ⟨outcome, earlier⟩, listed, refused⟩
  cases config : scenario.config.validate with
  | error error => exact .inr ⟨_, .config config⟩
  | ok _ =>
    rcases search scenario.actors with accepted | ⟨index, entry, error, earlier, listed, refused⟩
    · exact .inl ⟨config, accepted⟩
    · exact .inr ⟨_, .actor config earlier listed refused⟩

def spawned (ids : IdSupply) (engine : Engine) (index : Nat) (entry : ScenarioActor) : Engine :=
  { engine with
    actors := engine.actors ++ [entry.params.toActor (ids.actor index)]
    log := engine.log.push ⟨engine.clock.tick, .spawned (ids.actor index), entry.params.name ++ " spawned"⟩ }

/-- The engine with the actor of an index spawned and its turret attached. -/
def joined (ids : IdSupply) (engine : Engine) (index : Nat) (entry : ScenarioActor) : Engine :=
  let spawned := spawned ids engine index entry
  match entry.turret with
  | none => spawned
  | some turret =>
    { spawned.modifyActor (ids.actor index) fun actor => { actor with turret := some (ids.turret index) } with
      turrets := engine.turrets.insert (ids.turret index) turret }

variable {index : Nat} {entry : ScenarioActor}

theorem addActor_of_accepted (accepted : entry.params.validate = .ok ()) :
    addActor ids engine index entry = .ok (joined ids engine index entry) := by
  have seated := (engine.spawns (ids.actor index) entry.params).accepted accepted
  rw [addActor, seated, joined]
  cases entry.turret with
  | none => rfl
  | some turret =>
    change Engine.attachTurret _ _ _ _ = _
    rw [Engine.attachTurret]
    split
    · next absent =>
      have live := Engine.actor?_eq_none_iff.mp absent
      simp [Engine.ids, SpawnParams.toActor] at live
    · rfl

theorem addActor_of_refused {error : SpawnError} (refused : entry.params.validate = .error error) :
    addActor ids engine index entry = .error (.spawn error) := by
  have failed := (engine.spawns (ids.actor index) entry.params).refused error refused
  rw [addActor, failed]
  rfl

/-- Where the identifier of the actor is new, the handle is written into its own record only. -/
theorem actors_joined (absent : ids.actor index ∉ engine.ids) :
    (joined ids engine index entry).actors = engine.actors ++
      [{ entry.params.toActor (ids.actor index) with turret := entry.turret.map fun _ => ids.turret index }] := by
  have stands : (spawned ids engine index entry).Stands engine.actors (entry.params.toActor (ids.actor index)) [] := by
    refine ⟨rfl, fun other listed same => ?_, fun _ listed => absurd listed List.not_mem_nil⟩
    have known : other.id = ids.actor index := same
    exact absent (known ▸ List.mem_map_of_mem listed)
  rw [joined]
  cases entry.turret with
  | none => rfl
  | some turret => exact congrArg Engine.actors (stands.modifyActor_eq _)

/-- Beyond the records and the turrets, an attached turret changes nothing. -/
theorem exists_joined_eq (ids : IdSupply) (engine : Engine) (index : Nat) (entry : ScenarioActor) :
    ∃ actors turrets, joined ids engine index entry =
      { spawned ids engine index entry with actors := actors, turrets := turrets } := by
  rw [joined]
  cases entry.turret <;> exact ⟨_, _, rfl⟩

theorem turrets_joined (ids : IdSupply) (engine : Engine) (index : Nat) (entry : ScenarioActor) :
    (joined ids engine index entry).turrets =
      match entry.turret with
      | none => engine.turrets
      | some turret => engine.turrets.insert (ids.turret index) turret := by
  rw [joined]
  cases entry.turret <;> rfl

theorem get?_joined_self {turret : Turret} (armed : entry.turret = some turret) :
    (joined ids engine index entry).turrets.get? (ids.turret index) = some turret := by
  rw [turrets_joined, armed]
  exact engine.turrets.get?_insert_self turret

theorem get?_joined_of_ne {handle : TurretId} (differs : handle ≠ ids.turret index) :
    (joined ids engine index entry).turrets.get? handle = engine.turrets.get? handle := by
  rw [turrets_joined]
  cases entry.turret with
  | none => rfl
  | some turret => exact engine.turrets.get?_insert_of_ne turret differs

theorem mem_handles_joined {handle : TurretId} (used : handle ∈ (joined ids engine index entry).turrets.handles) :
    handle = ids.turret index ∨ handle ∈ engine.turrets.handles := by
  rw [turrets_joined] at used
  cases armed : entry.turret with
  | none =>
    rw [armed] at used
    exact .inr used
  | some turret =>
    rw [armed] at used
    exact TurretStore.mem_handles_insert _ used

theorem size_joined (unused : ids.turret index ∉ engine.turrets.handles) :
    (joined ids engine index entry).turrets.size =
      engine.turrets.size + [entry].countP fun entry => entry.turret.isSome := by
  rw [turrets_joined, List.countP_singleton]
  cases entry.turret with
  | none => rfl
  | some turret => exact TurretStore.size_insert turret unused

theorem announcements_concat (scenario : Scenario) (ids : IdSupply) (added : List ScenarioActor)
    (entry : ScenarioActor) :
    announcements { scenario with actors := added ++ [entry] } ids =
      announcements { scenario with actors := added } ids ++
        [⟨0, .spawned (ids.actor added.length), entry.params.name ++ " spawned"⟩] :=
  List.mapIdx_concat

variable {added : List ScenarioActor}

/-- An engine of some actors of a scenario becomes one of these and the next actor. -/
theorem Prepared.join (prepared : Prepared { scenario with actors := added } host ids engine) (entry : ScenarioActor) :
    Prepared { scenario with actors := added ++ [entry] } host ids (joined ids engine added.length entry) := by
  obtain ⟨actors, turrets, same⟩ := exists_joined_eq ids engine added.length entry
  rw [same]
  have told : (engine.log.push
      ⟨engine.clock.tick, .spawned (ids.actor added.length), entry.params.name ++ " spawned"⟩).toList =
        EventLog.newest scenario.config.maxEvents
          (announcements { scenario with actors := added ++ [entry] } ids) := by
    rw [EventLog.toList_push, prepared.log, prepared.capacity, EventLog.newest_append, prepared.clock,
      announcements_concat]
  exact ⟨prepared.clock, prepared.config, prepared.reference, prepared.host, prepared.stages,
    (EventLog.trim_capacity _).trans prepared.capacity, told⟩

theorem Loaded.drawn (loaded : scenario.Loaded host ids engine) {id : ActorId} (live : id ∈ engine.ids) :
    ∃ index < scenario.actors.length, id = ids.actor index := by
  rw [Engine.ids, loaded.actors] at live
  obtain ⟨actor, listed, rfl⟩ := List.mem_map.mp live
  obtain ⟨index, bound, rfl⟩ := List.mem_mapIdx.mp listed
  exact ⟨index, bound, rfl⟩

/-- The same holds of the records, the handles and the turrets, as long as identifiers are new. -/
theorem Loaded.join (loaded : Loaded { scenario with actors := added } host ids engine)
    (fresh : ids.Fresh (added.length + 1)) (accepted : entry.params.validate = .ok ()) :
    Loaded { scenario with actors := added ++ [entry] } host ids (joined ids engine added.length entry) := by
  have absent : ids.actor added.length ∉ engine.ids := by
    intro live
    obtain ⟨index, earlier, same⟩ := loaded.drawn live
    exact fresh.actor_ne earlier same.symm
  have unused : ids.turret added.length ∉ engine.turrets.handles := by
    intro used
    obtain ⟨index, earlier, same⟩ := loaded.handles _ used
    exact fresh.turret_ne earlier same.symm
  refine ⟨loaded.toPrepared.join entry, ?_, ?_, ?_, ?_, ?_⟩
  · rw [actors_joined absent, loaded.actors]
    exact List.mapIdx_concat.symm
  · intro other listed id
    rcases List.mem_append.mp listed with old | new
    · exact loaded.spawned other old id
    · rw [List.mem_singleton.mp new, Actor.spawn, accepted]
      rfl
  · intro index other turret listed armed
    rcases Nat.lt_trichotomy index added.length with earlier | rfl | later
    · rw [List.getElem?_append_left earlier] at listed
      exact (get?_joined_of_ne (fresh.turret_ne earlier)).trans (loaded.resolved index other turret listed armed)
    · rw [List.getElem?_concat_length] at listed
      obtain rfl := Option.some.inj listed
      exact get?_joined_self armed
    · rw [List.getElem?_eq_none (by rw [List.length_append]; exact later)] at listed
      cases listed
  · intro handle used
    have longer : added.length < (added ++ [entry]).length := by rw [List.length_append]; exact Nat.lt_succ_self _
    rcases mem_handles_joined used with rfl | old
    · exact ⟨added.length, longer, rfl⟩
    · obtain ⟨index, bound, same⟩ := loaded.handles handle old
      exact ⟨index, Nat.lt_trans bound longer, same⟩
  · rw [size_joined unused, loaded.turrets]
    exact List.countP_append.symm

/-- From an engine of some actors of a scenario, actors that are accepted lead to the engine of all of them. -/
theorem addActors_of_accepted {rest : List ScenarioActor}
    (prepared : Prepared { scenario with actors := added } host ids engine)
    (accepted : ∀ entry ∈ rest, entry.params.validate = .ok ()) :
    ∃ final, addActors ids engine added.length rest = .ok final ∧
      Prepared { scenario with actors := added ++ rest } host ids final ∧
      (ids.Fresh (added ++ rest).length → Loaded { scenario with actors := added } host ids engine →
        Loaded { scenario with actors := added ++ rest } host ids final) := by
  -- the engine so far is that of the actors added so far, of which there is one more at each step
  induction rest generalizing added engine with
  | nil =>
    rw [List.append_nil]
    exact ⟨engine, rfl, prepared, fun _ loaded => loaded⟩
  | cons entry rest ih =>
    obtain ⟨valid, others⟩ := List.forall_mem_cons.mp accepted
    obtain ⟨final, added', prepared', loads⟩ := ih (prepared.join entry) others
    rw [List.append_assoc, List.singleton_append] at prepared' loads
    refine ⟨final, ?_, prepared', fun fresh loaded => loads fresh ?_⟩
    · rw [addActors, addActor_of_accepted valid]
      rwa [List.length_append] at added'
    · refine loaded.join (fresh.mono ?_) valid
      rw [List.length_append, List.length_cons]
      omega

/-- The first actor that is refused ends it. -/
theorem addActors_of_refused {entries : List ScenarioActor} {offset : Nat} {error : SpawnError}
    (earlier : ∀ other ∈ entries.take offset, other.params.validate = .ok ())
    (listed : entries[offset]? = some entry) (refused : entry.params.validate = .error error) :
    addActors ids engine index entries = .error (.actor (index + offset) (.spawn error)) := by
  induction entries generalizing engine index offset with
  | nil => cases listed
  | cons first rest ih =>
    cases offset with
    | zero =>
      obtain rfl := Option.some.inj listed
      rw [addActors, addActor_of_refused refused]
      rfl
    | succ offset =>
      obtain ⟨valid, others⟩ := List.forall_mem_cons.mp earlier
      rw [addActors, addActor_of_accepted valid]
      refine (ih others listed).trans ?_
      rw [Nat.add_assoc, Nat.add_comm 1]

/-- A valid scenario is set up as it describes itself. -/
theorem build_of_valid (valid : scenario.Valid) (host : Host) (ids : IdSupply) :
    ∃ engine, scenario.build host ids = .ok engine ∧ scenario.Prepared host ids engine ∧
      (ids.Fresh scenario.actors.length → scenario.Loaded host ids engine) := by
  let start : Engine :=
    { config := scenario.config, log := { capacity := scenario.config.maxEvents }, stages := Stage.standard
      host := host, reference := scenario.reference }
  have prepared : Prepared { scenario with actors := [] } host ids start :=
    ⟨rfl, rfl, rfl, rfl, rfl, rfl, (EventLog.newest_nil _).symm⟩
  have loaded : Loaded { scenario with actors := [] } host ids start :=
    ⟨prepared, rfl, fun _ listed => absurd listed List.not_mem_nil, fun _ _ _ listed => (nomatch listed),
      fun _ used => absurd used List.not_mem_nil, rfl⟩
  obtain ⟨engine, added, prepared, loads⟩ := addActors_of_accepted prepared valid.actors
  refine ⟨engine, ?_, prepared, fun fresh => loads fresh loaded⟩
  rw [build, Engine.new, Engine.withStages_eq_ok_iff.mpr ⟨valid.config, rfl⟩]
  exact added

/-- What is reported of a scenario is the error of setting it up. -/
theorem build_of_reports {error : ScenarioError} (reports : scenario.Reports error) (host : Host) (ids : IdSupply) :
    scenario.build host ids = .error error := by
  cases reports with
  | config refused =>
    rw [build, Engine.new, Engine.withStages, refused]
    rfl
  | actor accepted earlier listed refused =>
    rw [build, Engine.new, Engine.withStages_eq_ok_iff.mpr ⟨accepted, rfl⟩]
    refine (addActors_of_refused earlier listed refused).trans ?_
    rw [Nat.zero_add]

theorem exists_build_eq_ok_iff (scenario : Scenario) (host : Host) (ids : IdSupply) :
    (∃ engine, scenario.build host ids = .ok engine) ↔ scenario.Valid := by
  constructor
  · rintro ⟨engine, built⟩
    rcases scenario.valid_or_reports with valid | ⟨error, reports⟩
    · exact valid
    · rw [build_of_reports reports] at built
      cases built
  · intro valid
    obtain ⟨engine, built, -⟩ := build_of_valid valid host ids
    exact ⟨engine, built⟩

theorem build_eq_error_iff {error : ScenarioError} :
    scenario.build host ids = .error error ↔ scenario.Reports error := by
  refine ⟨fun failed => ?_, fun reports => build_of_reports reports host ids⟩
  rcases scenario.valid_or_reports with valid | ⟨other, reports⟩
  · obtain ⟨engine, built, -⟩ := build_of_valid valid host ids
    rw [built] at failed
    cases failed
  · rw [build_of_reports reports] at failed
    exact Except.error.inj failed ▸ reports

theorem of_build (built : scenario.build host ids = .ok engine) :
    scenario.Prepared host ids engine ∧ (ids.Fresh scenario.actors.length → scenario.Loaded host ids engine) := by
  have valid := (exists_build_eq_ok_iff scenario host ids).mp ⟨engine, built⟩
  obtain ⟨final, made, described⟩ := build_of_valid valid host ids
  rw [made] at built
  exact Except.ok.inj built ▸ described

end Scenario

namespace Command

/-- Why a scenario file is refused: it cannot be read, its text describes no scenario, or the scenario is refused. -/
inductive Refuses (files : Files) (path : String) : CommandError → Prop where
  | unread {error : FileError} (failed : files.readText path = .error error) :
      Refuses files path (.cannotRead path error)
  | undescribed {text : String} (read : files.readText path = .ok text) (described : scenarioOf? text = none) :
      Refuses files path (.invalidScenario path)
  | scenario {text : String} {scenario : Scenario} {error : ScenarioError} (read : files.readText path = .ok text)
      (described : scenarioOf? text = some scenario) (reports : scenario.Reports error) :
      Refuses files path (.scenario error)

/-- A scenario file of which nothing is refused. -/
def Accepts (files : Files) (path : String) : Prop :=
  ∃ text scenario, files.readText path = .ok text ∧ scenarioOf? text = some scenario ∧ scenario.Valid

variable {files : Files} {path : String} {ids : IdSupply} {error : CommandError}

theorem loadScenario_of_described {text : String} {scenario : Scenario} (read : files.readText path = .ok text)
    (described : scenarioOf? text = some scenario) : loadScenario files path = .ok scenario := by
  simp only [loadScenario, read, described]

theorem prepare_of_load {scenario : Scenario} (read : loadScenario files path = .ok scenario) (ids : IdSupply) :
    prepare files ids path =
      match scenario.build (assetHost files path) ids with
      | .ok engine => .ok (scenario, engine)
      | .error error => .error (.scenario error) := by
  rw [prepare, read]
  rfl

theorem prepare_of_failed (failed : loadScenario files path = .error error) (ids : IdSupply) :
    prepare files ids path = .error error := by
  rw [prepare, failed]
  rfl

theorem prepare_eq_ok_iff {scenario : Scenario} {start : Engine} :
    prepare files ids path = .ok (scenario, start) ↔
      loadScenario files path = .ok scenario ∧ scenario.build (assetHost files path) ids = .ok start := by
  constructor
  · intro prepared
    cases read : loadScenario files path with
    | error _ =>
      rw [prepare_of_failed read] at prepared
      cases prepared
    | ok described =>
      rw [prepare_of_load read] at prepared
      split at prepared
      · next built =>
        cases prepared
        exact ⟨rfl, built⟩
      · cases prepared
  · rintro ⟨read, built⟩
    rw [prepare_of_load read, built]

theorem prepare_of_refuses (refuses : Refuses files path error) (ids : IdSupply) :
    prepare files ids path = .error error := by
  cases refuses with
  | unread failed =>
    apply prepare_of_failed
    rw [loadScenario, failed]
  | undescribed read described =>
    apply prepare_of_failed
    simp only [loadScenario, read, described]
  | scenario read described reports =>
    rw [prepare_of_load (loadScenario_of_described read described), Scenario.build_of_reports reports]

theorem prepare_of_accepts (accepts : Accepts files path) (ids : IdSupply) :
    ∃ scenario start, prepare files ids path = .ok (scenario, start) := by
  obtain ⟨text, scenario, read, described, valid⟩ := accepts
  obtain ⟨start, built, -⟩ := Scenario.build_of_valid valid (assetHost files path) ids
  exact ⟨scenario, start, prepare_eq_ok_iff.mpr ⟨loadScenario_of_described read described, built⟩⟩

theorem accepts_or_refuses (files : Files) (path : String) :
    Accepts files path ∨ ∃ error, Refuses files path error := by
  cases read : files.readText path with
  | error error => exact .inr ⟨_, .unread read⟩
  | ok text =>
    cases described : scenarioOf? text with
    | none => exact .inr ⟨_, .undescribed read described⟩
    | some scenario =>
      rcases scenario.valid_or_reports with valid | ⟨error, reports⟩
      · exact .inl ⟨text, scenario, read, described, valid⟩
      · exact .inr ⟨_, .scenario read described reports⟩

theorem prepare_eq_error_iff (ids : IdSupply) : prepare files ids path = .error error ↔ Refuses files path error := by
  refine ⟨fun failed => ?_, fun refuses => prepare_of_refuses refuses ids⟩
  rcases accepts_or_refuses files path with accepts | ⟨other, refuses⟩
  · obtain ⟨scenario, start, prepared⟩ := prepare_of_accepts accepts ids
    rw [prepared] at failed
    cases failed
  · rw [prepare_of_refuses refuses] at failed
    exact Except.error.inj failed ▸ refuses

theorem exists_prepare_eq_ok_iff (ids : IdSupply) :
    (∃ prepared, prepare files ids path = .ok prepared) ↔ Accepts files path := by
  constructor
  · rintro ⟨prepared, success⟩
    rcases accepts_or_refuses files path with accepts | ⟨error, refuses⟩
    · exact accepts
    · rw [prepare_of_refuses refuses] at success
      cases success
  · intro accepts
    obtain ⟨scenario, start, prepared⟩ := prepare_of_accepts accepts ids
    exact ⟨_, prepared⟩

theorem check_eq_error_iff {styled : Bool} :
    check files ids styled path = .error error ↔ Refuses files path error := by
  rw [← prepare_eq_error_iff ids, check]
  cases prepare files ids path <;> simp [bind, Except.bind]

theorem exists_check_eq_ok_iff {styled : Bool} :
    (∃ output, check files ids styled path = .ok output) ↔ Accepts files path := by
  rw [← exists_prepare_eq_ok_iff ids, check]
  cases prepare files ids path <;> simp [bind, Except.bind]

section
variable {options : RunOptions}

/-- Where there is room for the reports, a run fails for what is wrong with the file only. -/
theorem run_of_room (room : options.ticks ≤ TickReport.limit) : run files ids options path =
    (prepare files ids path).map fun prepared =>
      if options.json then text [(write (prepared.2.run options.ticks).engine.actors).indented]
      else text (Report.lines options.styled options.verbose prepared.1.name (prepared.2.run options.ticks)) := by
  rw [run]
  cases prepare files ids path with
  | error _ => rfl
  | ok prepared =>
    simp only [bind, Except.bind, Except.map, Engine.run?, if_pos room]
    split <;> rfl

/-- Where there is none, no tick is run, whatever the file describes. -/
theorem run_of_crowded (crowded : TickReport.limit < options.ticks) : run files ids options path =
    (prepare files ids path).bind fun _ => .error .capacityOverflow := by
  rw [run]
  cases prepare files ids path with
  | error _ => rfl
  | ok prepared => simp only [bind, Except.bind, Engine.run?, if_neg (Nat.not_le.mpr crowded)]

theorem run_eq_error_iff : run files ids options path = .error error ↔ Refuses files path error ∨
    error = .capacityOverflow ∧ TickReport.limit < options.ticks ∧ Accepts files path := by
  rw [← prepare_eq_error_iff ids, ← exists_prepare_eq_ok_iff ids]
  rcases Nat.lt_or_ge TickReport.limit options.ticks with crowded | room
  · rw [run_of_crowded crowded]
    cases prepare files ids path <;> simp [Except.bind, crowded, eq_comm]
  · rw [run_of_room room]
    cases prepare files ids path <;> simp [Except.map, Nat.not_lt.mpr room]

theorem exists_run_eq_ok_iff : (∃ output, run files ids options path = .ok output) ↔
    Accepts files path ∧ options.ticks ≤ TickReport.limit := by
  rw [← exists_prepare_eq_ok_iff ids]
  rcases Nat.lt_or_ge TickReport.limit options.ticks with crowded | room
  · rw [run_of_crowded crowded]
    cases prepare files ids path <;> simp [Except.bind, Nat.not_le.mpr crowded]
  · rw [run_of_room room]
    cases prepare files ids path <;> simp [Except.map, room]

end

theorem exists_ok_of_map {ε α β : Type} {outcome : Except ε α} {view : α → β} {seen : β}
    (read : outcome.toOption.map view = some seen) : ∃ value, outcome = .ok value ∧ view value = seen := by
  cases outcome with
  | error _ => cases read
  | ok value => exact ⟨value, rfl, Option.some.inj read⟩

/-- What checking and running a scenario file come to, whichever identifiers are drawn and however they are reported. -/
structure Outcomes (files : Files) (path : String) (ids otherIds : IdSupply) (styled : Bool) (options : RunOptions) :
    Prop where
  checked : (∃ output, check files ids styled path = .ok output) ↔ Accepts files path
  refused : ∀ error, check files ids styled path = .error error ↔ Refuses files path error
  ran : (∃ output, run files otherIds options path = .ok output) ↔
    Accepts files path ∧ options.ticks ≤ TickReport.limit
  /-- A file that is accepted is not run only if no list can hold the reports. -/
  failed : ∀ error, run files otherIds options path = .error error ↔ Refuses files path error ∨
    error = .capacityOverflow ∧ TickReport.limit < options.ticks ∧ Accepts files path
  together : options.ticks ≤ TickReport.limit →
    ((∃ output, check files ids styled path = .ok output) ↔ ∃ output, run files otherIds options path = .ok output)

theorem outcomes (files : Files) (path : String) (ids otherIds : IdSupply) (styled : Bool) (options : RunOptions) :
    Outcomes files path ids otherIds styled options where
  checked := exists_check_eq_ok_iff
  refused _ := check_eq_error_iff
  ran := exists_run_eq_ok_iff
  failed _ := run_eq_error_iff
  together room := by
    rw [exists_check_eq_ok_iff, exists_run_eq_ok_iff]
    exact (and_iff_left room).symm

example : TickReport.limit = 230584300921369395 := rfl

/-- A file that describes a scenario without actors is accepted, and cannot be run for as many ticks as a word can
count. -/
theorem run_lacks_room :
    let files : Files := .ofReadings [("scenario.json", .ok "\x7b\x7d".toUTF8.toList)]
    let ids : IdSupply := ⟨fun index => ⟨.ofNat index⟩, fun index => ⟨.ofNat index⟩⟩
    let options : RunOptions := { ticks := 18446744073709551615 }
    (∃ output, check files ids false "scenario.json" = .ok output) ∧
      run files ids options "scenario.json" = .error .capacityOverflow ∧
      ¬((∃ output, check files ids false "scenario.json" = .ok output) ↔
        ∃ output, run files ids options "scenario.json" = .ok output) := by
  intro files ids options
  have accepts : Accepts files "scenario.json" :=
    ⟨"\x7b\x7d", {}, by decide +kernel, by decide +kernel, by decide, by decide⟩
  have checked : ∃ output, check files ids false "scenario.json" = .ok output := exists_check_eq_ok_iff.mpr accepts
  have stopped : run files ids options "scenario.json" = .error .capacityOverflow :=
    run_eq_error_iff.mpr (.inr ⟨rfl, by decide, accepts⟩)
  refine ⟨checked, stopped, fun agree => ?_⟩
  obtain ⟨output, ran⟩ := agree.mp checked
  rw [stopped] at ran
  cases ran

end Command

/-- A scenario is set up if and only if nothing of it is refused; otherwise the error of its settings or that of
its first refused actor is reported. With distinct identifiers, the engine is the one that the scenario
describes. A file that can be checked can be run, whatever happens during the run, for every number of ticks whose
reports a list can hold. -/
theorem Scenario.loading (scenario : Scenario) (host : Host) (ids : IdSupply) :
    ((∃ engine, scenario.build host ids = .ok engine) ↔ scenario.Valid) ∧
      (∀ error, scenario.build host ids = .error error ↔ scenario.Reports error) ∧
      (∀ engine, scenario.build host ids = .ok engine → ids.Fresh scenario.actors.length →
        scenario.Loaded host ids engine) ∧
      ∀ (files : Files) (path : String) (otherIds : IdSupply) (styled : Bool) (options : Command.RunOptions),
        Command.Outcomes files path ids otherIds styled options := by
  refine ⟨exists_build_eq_ok_iff scenario host ids, fun error => build_eq_error_iff, ?_, ?_⟩
  · intro engine built fresh
    exact (of_build built).2 fresh
  · intro files path otherIds styled options
    exact Command.outcomes files path ids otherIds styled options

/-- Of two actors, the first has a turret and the log keeps the event of the second only; the first cannot pursue,
so its tick is cut short, and the file that describes them is run nevertheless. With two more actors that are both
refused, the first of these is blamed by both commands. -/
theorem Scenario.loading_of_two :
    let scenario : Scenario :=
      { config := { maxEvents := 1, pursuitDivisor := 0 }
        actors := [{ params := { name := "lead", mode := 1 }, turret := some {} }, { params := { name := "wing" } }] }
    let blamed : Scenario :=
      { scenario with
        actors := scenario.actors ++
          [{ params := { name := " " } }, { params := { name := "tail", mode := 8 }, turret := some {} }] }
    let start := "\x7b\"config\":\x7b\"max_events\":1,\"pursuit_divisor\":0\x7d,\"actors\":[" ++
      "\x7b\"name\":\"lead\",\"mode\":1,\"turret\":\x7b\"aim\":0\x7d\x7d,\x7b\"name\":\"wing\"\x7d"
    let rest := ",\x7b\"name\":\" \"\x7d,\x7b\"name\":\"tail\",\"mode\":8,\"turret\":\x7b\"aim\":0\x7d\x7d"
    let files : Files := .ofReadings [("two", .ok (start ++ "]\x7d").toUTF8.toList),
      ("four", .ok (start ++ rest ++ "]\x7d").toUTF8.toList)]
    let ids : IdSupply := ⟨fun index => ⟨.ofNat index⟩, fun index => ⟨.ofNat index⟩⟩
    let options : Command.RunOptions := { ticks := 1, verbose := true }
    (∃ engine, scenario.build {} ids = .ok engine ∧ scenario.Loaded {} ids engine ∧
        (engine.run 1).reports.map (·.isClean) = [false]) ∧
      blamed.build {} ids = .error (.actor 2 (.spawn .blankName)) ∧ blamed.Reports (.actor 2 (.spawn .blankName)) ∧
      (∃ output, Command.check files ids false "two" = .ok output) ∧
      (∃ output, Command.run files ids options "two" = .ok output) ∧
      Command.check files ids false "four" = .error (.scenario (.actor 2 (.spawn .blankName))) ∧
      Command.run files ids options "four" = .error (.scenario (.actor 2 (.spawn .blankName))) := by
  intro scenario blamed start rest files ids options
  obtain ⟨succeeds, -, loads, commands⟩ := scenario.loading {} ids
  obtain ⟨-, fails, -, -⟩ := blamed.loading {} ids
  have fresh : ids.Fresh 2 := by
    have actors : ∀ first second : Fin 2, ids.actor first = ids.actor second → first = second := by decide
    have turrets : ∀ first second : Fin 2, ids.turret first = ids.turret second → first = second := by decide
    exact ⟨fun first second low high same => congrArg Fin.val (actors ⟨first, low⟩ ⟨second, high⟩ same),
      fun first second low high same => congrArg Fin.val (turrets ⟨first, low⟩ ⟨second, high⟩ same)⟩
  have valid : scenario.Valid := ⟨by decide, by decide⟩
  obtain ⟨engine, built⟩ := succeeds.mpr valid
  have ran : (scenario.build {} ids).toOption.map (fun engine => (engine.run 1).reports.map (·.isClean)) =
      some [false] := by decide +kernel
  rw [built] at ran
  have reports : blamed.Reports (.actor 2 (.spawn .blankName)) := (fails _).mp rfl
  have two : Command.Accepts files "two" :=
    ⟨start ++ "]\x7d", scenario, by decide +kernel, by decide +kernel, valid⟩
  have four : Command.Refuses files "four" (.scenario (.actor 2 (.spawn .blankName))) := by
    have read : files.readText "four" = .ok (start ++ rest ++ "]\x7d") := by decide +kernel
    exact .scenario read (by decide +kernel) reports
  have first := commands files "two" ids false options
  have second := commands files "four" ids false options
  refine ⟨⟨engine, built, loads engine built fresh, Option.some.inj ran⟩, rfl, reports, first.checked.mpr two, ?_,
    (second.refused _).mpr four, (second.failed _).mpr (.inl four)⟩
  exact (first.together (by decide)).mp (first.checked.mpr two)

end Rotorcraft
