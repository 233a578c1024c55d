import Rotorcraft.Proofs.Lists
import Rotorcraft.Proofs.Operation
import Rotorcraft.Proofs.TimerHistory

/-! # The codes that timers forward

From its spawn on, the codes that the timer stage forwards to an actor depend on its spawn parameters,
on the clock and on its acknowledgements, whatever else happens to it or to others: every slot fires
once, and in between the code that fired last is repeated on periodic ticks until it is acknowledged.
-/

namespace Rotorcraft

namespace HostCall

/-- The code that a call forwards to an actor. -/
def forwardedTo? (id : ActorId) : HostCall → Option EventCode
  | .forward target code _ => if target = id then some code else none
  | _ => none

end HostCall

theorem Frame.forwarded_forward (frame : Frame) (actor : Actor) (codes : List EventCode) (id : ActorId) :
    (frame.forward actor codes).calls.filterMap (HostCall.forwardedTo? id) =
      if actor.id = id then codes else [] := by
  rw [forward, List.filterMap_map]
  split
  · next same => simp [forwardCall, HostCall.forwardedTo?, same]
  · next other => simp [Function.comp_def, forwardCall, HostCall.forwardedTo?, other]

namespace TimerStage

variable (frame : Frame) (actor : Actor)

def codes : List EventCode :=
  if firedCodes actor = [] then (rebroadcast? frame (advance actor)).toList else firedCodes actor

theorem run_calls (counters : TimerCounters) :
    (run frame counters actor).2.calls = (codes frame actor).map (frame.forwardCall actor.id) := by
  have id := (advance_persists actor).id
  rw [run, codes]
  cases fired : firedCodes actor <;> simp [Frame.forward, id]

theorem forwarded_run (counters : TimerCounters) (id : ActorId) :
    (run frame counters actor).2.calls.filterMap (HostCall.forwardedTo? id) =
      if actor.id = id then codes frame actor else [] := by
  rw [run_calls]
  exact frame.forwarded_forward actor (codes frame actor) id

/-- When no timer fires, the pending code is forwarded if it is latched and the tick is periodic. -/
theorem codes_of_quiet {actor : Actor} (quiet : firedCodes actor = []) :
    codes frame actor = (actor.pendingEvent.filter fun _ =>
      actor.hasFlag .eventLatch && frame.clock.isPeriodic frame.config.periodicPeriod).toList := by
  have same : actor.pendingEvent = (advance actor).pendingEvent ∧
      actor.flags = (advance actor).flags := by
    rw [advance_eq, quiet]
    exact ⟨rfl, rfl⟩
  rw [codes, if_pos quiet, rebroadcast?, Actor.hasFlag, ← same.1, ← same.2]
  rfl

end TimerStage

namespace Pipeline

/-- The codes that the timer stages of a pipeline forward to an actor while `actor` goes through. -/
def timerCodes (frame : Frame) (stages : List Stage) (actor : Actor) (id : ActorId) : List EventCode :=
  ((trace frame stages actor).filter fun entry => entry.1.isTimers).flatMap fun entry =>
    entry.2.calls.filterMap (HostCall.forwardedTo? id)

theorem mem_of_mem_trace {frame : Frame} {stages : List Stage} {actor : Actor} {reached : Stage × Pass}
    (member : reached ∈ trace frame stages actor) : reached.1 ∈ stages := by
  induction stages generalizing actor with
  | nil => cases member
  | cons stage rest ih =>
    rw [trace, List.mem_cons] at member
    obtain rfl | later := member
    · exact List.mem_cons_self ..
    · split at later
      · cases later
      · exact List.mem_cons_of_mem _ (ih later)

/-- The standard pipeline starts with its only timer stage. -/
theorem IsStandard.exists_cons {stages : List Stage} (standard : IsStandard stages) :
    ∃ counters rest, stages = .timers counters :: rest ∧ ∀ stage ∈ rest, stage.isTimers = false := by
  cases stages with
  | nil => cases standard
  | cons first rest =>
    obtain ⟨timers, others⟩ := List.cons.inj standard
    cases first with
    | timers counters =>
      refine ⟨counters, rest, rfl, fun stage member => ?_⟩
      have listed : stage.cleared ∈ rest.map Stage.cleared := List.mem_map_of_mem member
      rw [others] at listed
      cases stage with
      | timers other => simp [Stage.cleared] at listed
      | _ => rfl
    | _ => cases timers

/-- The standard pipeline has one timer stage, which every actor reaches. -/
theorem timerCodes_standard {stages : List Stage} (standard : IsStandard stages) (frame : Frame)
    (actor : Actor) (id : ActorId) : timerCodes frame stages actor id =
      if actor.id = id then TimerStage.codes frame actor else [] := by
  obtain ⟨counters, rest, rfl, others⟩ := standard.exists_cons
  have passed : (Stage.run frame (.timers counters) actor).2.error = none :=
    TimerStage.run_error frame counters actor
  have none : (trace frame rest (Stage.run frame (.timers counters) actor).2.actor).filter
      (fun reached => reached.1.isTimers) = [] := by
    refine List.filter_eq_nil_iff.mpr fun reached member => ?_
    rw [others _ (mem_of_mem_trace member)]
    exact Bool.false_ne_true
  simp only [timerCodes, trace, passed, Option.isSome_none, Bool.false_eq_true, if_false]
  rw [List.filter_cons_of_pos rfl, none, List.flatMap_singleton]
  exact TimerStage.forwarded_run frame actor counters id

end Pipeline

namespace Engine

def timerCodes (engine : Engine) (answers : HostAnswers) (id : ActorId) : List EventCode :=
  (engine.advanced.framed answers).flatMap fun entry =>
    Pipeline.timerCodes entry.1 engine.stages entry.2 id

/-- The calls of a tick are those of the stages that its actors reach; the codes above are read off
those among them that are timer stages. -/
theorem calls_eq_traces (engine : Engine) (answers : HostAnswers) : (engine.tickWith answers).calls =
    (engine.advanced.framed answers).flatMap fun entry =>
      (Pipeline.trace entry.1 engine.stages entry.2).flatMap fun reached => reached.2.calls := by
  rw [tickWith_calls, passes, List.flatMap_map]
  simp only [Pipeline.pass_calls, Pipeline.run_calls]

/-- Only the actor itself makes the timer stage forward codes to it. -/
theorem timerCodes_eq {engine : Engine} (standard : engine.IsStandard) (distinct : engine.ids.Nodup)
    (answers : HostAnswers) {actor : Actor} (live : actor ∈ engine.actors) :
    engine.timerCodes answers actor.id =
      TimerStage.codes (engine.advanced.frame engine.host) actor := by
  have whole : (engine.advanced.framed answers).map Prod.snd = engine.actors := framed_actors _ _
  have ids : ((engine.advanced.framed answers).map fun entry => entry.2.id) = engine.ids := by
    rw [Engine.ids, ← whole, List.map_map]
    rfl
  rw [← whole] at live
  obtain ⟨entry, member, rfl⟩ := List.mem_map.mp live
  simp only [timerCodes, Pipeline.timerCodes_standard standard]
  rw [flatMap_key_eq (ids ▸ distinct) member fun entry => TimerStage.codes entry.1 entry.2]
  obtain ⟨_, host, same⟩ := mem_framed member
  rw [same]
  rfl

/-- An actor is acknowledged after at least `age` ticks of some operations. -/
def AcknowledgedAfter (operations : List Operation) (id : ActorId) (age : Nat) : Prop :=
  ∃ earlier later, operations = earlier ++ .acknowledge id :: later ∧ age ≤ ticksOf earlier

theorem AcknowledgedAfter.le {operations : List Operation} {id : ActorId} {age : Nat}
    (acknowledged : AcknowledgedAfter operations id age) : age ≤ ticksOf operations := by
  obtain ⟨earlier, later, rfl, bound⟩ := acknowledged
  rw [ticksOf_append]
  omega

theorem acknowledgedAfter_append_singleton {operations : List Operation} {operation : Operation}
    {id : ActorId} {age : Nat} : AcknowledgedAfter (operations ++ [operation]) id age ↔
      AcknowledgedAfter operations id age ∨ operation = .acknowledge id ∧ age ≤ ticksOf operations := by
  constructor
  · rintro ⟨earlier, later, split, bound⟩
    rcases List.eq_nil_or_concat later with rfl | ⟨rest, last, rfl⟩
    · obtain ⟨rfl, same⟩ := List.append_inj' split rfl
      exact .inr ⟨List.singleton_inj.mp same, bound⟩
    · have regrouped : operations ++ [operation] = (earlier ++ .acknowledge id :: rest) ++ [last] := by
        simpa using split
      obtain ⟨same, _⟩ := List.append_inj' regrouped rfl
      exact .inl ⟨earlier, rest, same, bound⟩
  · rintro (⟨earlier, later, rfl, bound⟩ | ⟨rfl, bound⟩)
    · exact ⟨earlier, later ++ [operation], by simp, bound⟩
    · exact ⟨operations, [], rfl, bound⟩

/-- Every live actor of an identifier follows its history. -/
def AllFollow (engine : Engine) (id : ActorId) (params : SpawnParams) (age : Nat)
    (acknowledged : Nat → Prop) : Prop :=
  ∀ actor ∈ engine.actors, actor.id = id → actor.Follows params age acknowledged

section
variable {engine : Engine} (standard : engine.IsStandard) {id : ActorId} {params : SpawnParams}
  {age : Nat} {acknowledged : Nat → Prop} (past : ∀ fired, acknowledged fired → fired ≤ age)
  (follow : engine.AllFollow id params age acknowledged)
include standard past follow

theorem AllFollow.tickWith (answers : HostAnswers) :
    (engine.tickWith answers).engine.AllFollow id params (age + 1) acknowledged := by
  intro after member same
  obtain ⟨before, live, host, rfl⟩ := mem_tickWith member
  rw [(Pipeline.run_persists standard before).id] at same
  exact (follow before live same).run past standard

theorem AllFollow.runWith (answers : List HostAnswers) :
    (engine.runWith answers).engine.AllFollow id params (age + answers.length) acknowledged := by
  refine (runWith_induction (P := fun now later => later.IsStandard ∧ age ≤ now ∧
    later.AllFollow id params now acknowledged) (fun now later given kept => ?_) age
    ⟨standard, Nat.le_refl age, follow⟩ answers).2.2
  obtain ⟨kinds, bound, follow⟩ := kept
  exact ⟨kinds.tickWith given, by omega,
    AllFollow.tickWith kinds (fun fired early => Nat.le_trans (past fired early) bound) follow given⟩

/-- An operation makes the actor older by its ticks, and an acknowledgement is added to its history. -/
theorem AllFollow.perform {operation : Operation} (undrawn : operation.drawn? ≠ some id)
    (unedited : operation.edited? ≠ some id) :
    (engine.perform operation).AllFollow id params (age + operation.ticks)
      fun fired => acknowledged fired ∨ operation = .acknowledge id ∧ fired ≤ age := by
  intro after member same
  cases origin_of_mem member with
  | spawned _ => exact absurd (congrArg some same) undrawn
  | kept live spared =>
    have follows := follow after live same
    rw [same] at spared
    cases operation with
    | tick _ | run _ => cases spared
    | acknowledge other =>
      refine follows.congr fun fired => or_iff_left ?_
      rintro ⟨acknowledgement, _⟩
      exact spared (Operation.acknowledge.inj acknowledgement)
    | _ => exact follows.congr fun fired => or_iff_left (by rintro ⟨⟨⟩, _⟩)
  | @ticked answers _ _ _ =>
    have follows := AllFollow.tickWith standard past follow answers _ member same
    exact follows.congr fun fired => or_iff_left (by rintro ⟨⟨⟩, _⟩)
  | @ran answers _ _ =>
    have follows := AllFollow.runWith standard past follow answers after member same
    exact follows.congr fun fired => or_iff_left (by rintro ⟨⟨⟩, _⟩)
  | @acknowledged before live =>
    refine (follow before live same).acknowledge fun fired bound => .inr ⟨?_, bound⟩
    exact congrArg Operation.acknowledge same
  | @attached before handle turret live =>
    have follows : Actor.Follows params age acknowledged { before with turret := some handle } :=
      (follow before live same).of_sameTimers ⟨rfl, rfl, rfl⟩
    exact follows.congr fun fired => or_iff_left (by rintro ⟨⟨⟩, _⟩)
  | edited live => exact absurd (congrArg some same) unedited

end

/-- An actor follows its history from its spawn on, as long as nobody rewrites it directly. -/
theorem allFollow_performAll {config : Config} {start : Engine} (new : Engine.new config = .ok start)
    {id : ActorId} {params : SpawnParams} (valid : params.validate = .ok ())
    {before later : List Operation} (fresh : (drawnIds (before ++ .spawn id params :: later)).Nodup)
    (unedited : ∀ operation ∈ later, operation.edited? ≠ some id) :
    (start.performAll (before ++ .spawn id params :: later)).AllFollow id params (ticksOf later)
      (AcknowledgedAfter later id) := by
  induction later using List.reverseRecOn with
  | nil =>
    intro actor live same
    rw [drawnIds_append_singleton, List.nodup_append] at fresh
    rw [performAll_append] at live
    have origin : (start.performAll before).Origin (.spawn id params) actor := origin_of_mem live
    cases origin with
    | spawned _ => exact .spawned (SpawnParams.accepted_of_validate valid) id
    | kept old _ =>
      have drawn := (ids_sublist_drawn new before).subset (List.mem_map_of_mem old)
      rw [same] at drawn
      exact absurd rfl (fresh.2.2 id drawn id (List.mem_singleton_self _))
  | append_singleton later operation ih =>
    have regrouped : before ++ .spawn id params :: (later ++ [operation]) =
        (before ++ .spawn id params :: later) ++ [operation] := by simp
    rw [regrouped, drawnIds_append_singleton, List.nodup_append] at fresh
    have follow := ih fresh.1 fun other member => unedited other (List.mem_append_left _ member)
    have standard := (continues_performAll start (before ++ .spawn id params :: later)).standard
      (standard_of_new new)
    have undrawn : operation.drawn? ≠ some id := by
      intro drawn
      refine fresh.2.2 id ?_ id (by simp [drawn]) rfl
      simp [drawnIds, Operation.drawn?]
    have next := AllFollow.perform standard (fun fired => AcknowledgedAfter.le) follow undrawn
      (unedited operation (List.mem_append_right _ (List.mem_singleton_self _)))
    rw [regrouped, performAll_append]
    intro actor live same
    have age : ticksOf (later ++ [operation]) = ticksOf later + operation.ticks := by simp
    rw [age]
    exact (next actor live same).congr fun fired => acknowledgedAfter_append_singleton

/-- A code is forwarded again `age` ticks after the spawn of an actor: the tick is a periodic one, and
the code is what fired last and has not been acknowledged since. -/
structure Repeats (config : Config) (tick : UInt64) (id : ActorId) (params : SpawnParams)
    (later : List Operation) (age : Nat) (code : EventCode) : Prop where
  enabled : config.periodicPeriod ≠ 0
  periodic : config.periodicPeriod.toNat ∣ tick.toNat
  unacknowledged : ∃ fired, params.LastFired age fired code ∧ ¬ AcknowledgedAfter later id fired

/-- What the timer stage forwards to an actor of a given age. -/
structure TimerLaw (config : Config) (tick : UInt64) (id : ActorId) (params : SpawnParams)
    (later : List Operation) (age : Nat) (codes : List EventCode) : Prop where
  /-- When timers fire, their codes and nothing else. -/
  fires : params.codesAt age ≠ [] → codes = params.codesAt age
  /-- When none fires, the code that is forwarded again. -/
  repeats : params.codesAt age = [] → ∀ code,
    Repeats config tick id params later age code → codes = [code]
  /-- Otherwise nothing. -/
  silent : params.codesAt age = [] → (∀ code, ¬ Repeats config tick id params later age code) →
    codes = []

theorem timerLaw_of_follows {actor : Actor} {id : ActorId} {params : SpawnParams}
    {later : List Operation} {age : Nat}
    (follows : actor.Follows params age (AcknowledgedAfter later id)) (frame : Frame) :
    TimerLaw frame.config frame.clock.tick id params later (age + 1) (TimerStage.codes frame actor) := by
  have fired := follows.firedCodes_eq
  refine ⟨fun fires => ?_, fun quiet code repeats => ?_, fun quiet none => ?_⟩
  · rw [TimerStage.codes, if_neg (fired ▸ fires), fired]
  · have pending := (follows.pending code).mpr repeats.unacknowledged
    have periodic : frame.clock.isPeriodic frame.config.periodicPeriod = true :=
      isPeriodic_iff.mpr ⟨repeats.enabled, repeats.periodic⟩
    rw [TimerStage.codes_of_quiet frame (fired.trans quiet), pending]
    simp [follows.latched code pending, periodic]
  · rw [TimerStage.codes_of_quiet frame (fired.trans quiet)]
    cases pending : actor.pendingEvent with
    | none => rfl
    | some code =>
      have idle : frame.clock.isPeriodic frame.config.periodicPeriod = false := by
        refine Bool.eq_false_iff.mpr fun periodic => none code ?_
        obtain ⟨enabled, divides⟩ := isPeriodic_iff.mp periodic
        exact ⟨enabled, divides, (follows.pending code).mp pending⟩
      simp [idle]

/-- On every tick after the spawn of an actor that nobody rewrites directly, the codes that the timer
stage forwards to it are those of the timers that were armed with as many ticks; when there are none,
the code that fired last, on periodic ticks and until it is acknowledged; and otherwise none. A tick
within a run is one that follows a shorter run. -/
theorem timerCodes_follow {config : Config} {start : Engine} (new : Engine.new config = .ok start)
    {id : ActorId} {params : SpawnParams} (valid : params.validate = .ok ())
    {before later : List Operation} (fresh : (drawnIds (before ++ .spawn id params :: later)).Nodup)
    (unedited : ∀ operation ∈ later, operation.edited? ≠ some id) (answers : HostAnswers)
    (live : id ∈ (start.performAll (before ++ .spawn id params :: later)).ids) :
    let engine := start.performAll (before ++ .spawn id params :: later)
    let age := ticksOf later + 1
    let tick := (engine.tickWith answers).report.tick
    tick = (start.performAll before).clock.tick + UInt64.ofNat age ∧
      TimerLaw config tick id params later age (engine.timerCodes answers id) := by
  intro engine age tick
  have continues := continues_performAll start (before ++ .spawn id params :: later)
  have standard := continues.standard (standard_of_new new)
  have current : tick = engine.clock.tick + 1 := by
    simp only [tick, tickWith_report, report]
  refine ⟨?_, ?_⟩
  · have none : (Operation.spawn id params).ticks = 0 := rfl
    rw [current, show engine = _ from performAll_append start before (.spawn id params :: later),
      clock_performAll, ticksOf_cons, none, Nat.zero_add, UInt64.add_assoc]
    exact congrArg _ (UInt64.ofNat_add ..).symm
  · obtain ⟨actor, member, same⟩ := List.mem_map.mp live
    have follows := allFollow_performAll new valid fresh unedited actor member same
    have codes := timerCodes_eq standard (ids_nodup new fresh) answers member
    have law := timerLaw_of_follows follows (engine.advanced.frame engine.host)
    have settings : engine.config = config := by
      rw [continues.config, eq_of_new new]
    rw [same] at codes
    rw [codes, current, ← settings]
    exact law

/-- A code that fired two ticks after the spawn and is repeated after four. -/
theorem timerCodes_follow_repeated : ∃ start, Engine.new {} = .ok start ∧
    let params : SpawnParams := { name := "gunship", mode := 1, timers := { fire := some 2 } }
    let later : List Operation :=
      [.tick fun _ => {}, .acknowledge ⟨.ofNat 1⟩, .run [fun _ => {}, fun _ => {}]]
    let engine := start.performAll ([] ++ .spawn ⟨.ofNat 1⟩ params :: later)
    let codes := engine.timerCodes (fun _ => {}) ⟨.ofNat 1⟩
    codes = [⟨0x0101⟩] ∧
      TimerLaw {} (engine.tickWith fun _ => {}).report.tick ⟨.ofNat 1⟩ params later 4 codes :=
  ⟨_, rfl, by decide,
    (@timerCodes_follow {} _ rfl _ _ (by decide) [] _ (by decide) (by decide) _ (by decide)).2⟩

end Engine
end Rotorcraft
