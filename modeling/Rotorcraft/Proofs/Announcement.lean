import Rotorcraft.Proofs.Lives
import Rotorcraft.Proofs.Settling
import Rotorcraft.Proofs.Tally

/-! # The announcement of an altitude

The motion stage forwards a code to an actor on the tick on which its altitude settles. The altitude moves
with attraction only, by one step in every turn, and what has settled stays so. So from its spawn on, an actor
is told once, in the turn with which its pursuit has taken all its steps, and never if it has nothing to
pursue.
-/

namespace Rotorcraft

def Stage.isMotion : Stage → Bool
  | .motion _ => true
  | _ => false

namespace Pipeline

/-- The codes that the motion stages of a pipeline forward to an actor while `actor` goes through. -/
def motionCodes (frame : Frame) (stages : List Stage) (actor : Actor) (id : ActorId) : List EventCode :=
  ((trace frame stages actor).filter fun reached => reached.1.isMotion).flatMap fun reached =>
    reached.2.calls.filterMap (HostCall.forwardedTo? id)

/-- An actor that a stage does not fail reaches the next one. -/
theorem trace_cons_ok {frame : Frame} {stage : Stage} {rest : List Stage} {actor : Actor}
    (passed : (stage.run frame actor).2.error = none) : trace frame (stage :: rest) actor =
      (stage, (stage.run frame actor).2) :: trace frame rest (stage.run frame actor).2.actor := by
  simp only [trace, passed, Option.isSome_none, Bool.false_eq_true, if_false]

/-- The standard pipeline has one motion stage, and every actor reaches it. -/
theorem motionCodes_standard {stages : List Stage} (standard : IsStandard stages) (frame : Frame)
    (actor : Actor) (id : ActorId) : motionCodes frame stages actor id =
      if actor.id = id then MotionStage.codes frame actor else [] := by
  obtain ⟨counters, rfl⟩ := Counters.exists_stages standard
  let advanced := TimerStage.advance actor
  let moved := MotionStage.run frame counters.motion advanced
  have counted : (Stage.run frame (.timers counters.timers) actor).2.error = none :=
    TimerStage.run_error frame counters.timers actor
  have after : (Stage.run frame (.timers counters.timers) actor).2.actor = advanced :=
    TimerStage.run_actor frame counters.timers actor
  have passed : (Stage.run frame (.motion counters.motion) advanced).2.error = none :=
    MotionStage.run_error frame counters.motion advanced
  have others : (trace frame [.dispatch counters.dispatch, .transfer counters.transfer] moved.2.actor).filter
      (fun reached => reached.1.isMotion) = [] := by
    refine List.filter_eq_nil_iff.mpr fun reached member => ?_
    have listed := mem_of_mem_trace member
    simp only [List.mem_cons, List.not_mem_nil, or_false] at listed
    rcases listed with kind | kind <;> simp [kind, Stage.isMotion]
  have same : moved.2.actor.id = actor.id :=
    (MotionStage.run_persists frame counters.motion advanced).id.trans (TimerStage.advance_persists actor).id
  rw [motionCodes, Counters.stages, trace_cons_ok counted, after, trace_cons_ok passed,
    List.filter_cons_of_neg Bool.false_ne_true, List.filter_cons_of_pos rfl]
  calc ((Stage.motion counters.motion, moved.2) :: (trace frame [.dispatch counters.dispatch,
          .transfer counters.transfer] moved.2.actor).filter fun reached => reached.1.isMotion).flatMap
        (fun reached => reached.2.calls.filterMap (HostCall.forwardedTo? id))
    _ = moved.2.calls.filterMap (HostCall.forwardedTo? id) := by rw [others, List.flatMap_singleton]
    _ = (frame.forward moved.2.actor (MotionStage.codes frame advanced)).calls.filterMap
        (HostCall.forwardedTo? id) :=
      congrArg (fun pass => pass.calls.filterMap (HostCall.forwardedTo? id))
        (MotionStage.run_eq_forward frame advanced counters.motion)
    _ = if actor.id = id then MotionStage.codes frame actor else [] := by
      rw [frame.forwarded_forward, same, MotionStage.codes_advance]

end Pipeline

/-- The codes that motion stages forward to an actor during a tick, each with the number of the tick. -/
def Moment.announcements (moment : Moment) (id : ActorId) : List (UInt64 × EventCode) :=
  (moment.engine.advanced.framed moment.answers).flatMap fun entry =>
    (Pipeline.motionCodes entry.1 moment.engine.stages entry.2 id).map fun code =>
      (moment.ticked.report.tick, code)

def announcements (id : ActorId) (moments : List Moment) : List (UInt64 × EventCode) :=
  moments.flatMap fun moment => moment.announcements id

def Turn.announcements (turn : Turn) : List (UInt64 × EventCode) :=
  (MotionStage.codes turn.frame turn.before).map fun code => (turn.frame.clock.tick, code)

theorem Moment.announcements_eq {moment : Moment} (standard : moment.engine.IsStandard) (id : ActorId) :
    moment.announcements id = (turnsOf id [moment]).flatMap Turn.announcements := by
  have told : moment.announcements id =
      moment.turns.flatMap fun turn => if turn.before.id = id then turn.announcements else [] := by
    rw [announcements, turns, List.flatMap_map]
    refine List.flatMap_congr fun entry member => ?_
    obtain ⟨_, host, frame⟩ := Engine.mem_framed member
    have tick : moment.ticked.report.tick = entry.1.clock.tick := by
      rw [frame]
      rfl
    rw [Pipeline.motionCodes_standard standard, tick, apply_ite (List.map _)]
    rfl
  rw [told, turnsOf, List.flatMap_singleton]
  induction moment.turns with
  | nil => rfl
  | cons turn later ih =>
    rw [List.flatMap_cons, ih, List.filter_cons]
    by_cases same : turn.before.id = id <;> simp [same]

theorem announcements_eq {id : ActorId} {moments : List Moment}
    (standard : ∀ moment ∈ moments, moment.engine.IsStandard) :
    announcements id moments = (turnsOf id moments).flatMap Turn.announcements := by
  induction moments with
  | nil => rfl
  | cons moment later ih =>
    obtain ⟨first, others⟩ := List.forall_mem_cons.mp standard
    have split : turnsOf id (moment :: later) = turnsOf id [moment] ++ turnsOf id later :=
      turnsOf_append id [moment] later
    rw [split, List.flatMap_append, ← Moment.announcements_eq first, ← ih others]
    exact List.flatMap_cons

/-- The codes that the motion stage forwards to an actor in its turn after `count` others. -/
def SpawnParams.announcedAfter (params : SpawnParams) (step : Int32) (count : Nat) : List EventCode :=
  if params.flags.intersects .attractionActive &&
      (params.altitude.after step (count + 1)).isSettled && !(params.altitude.after step count).isSettled then
    [MotionStage.altitudeReached]
  else []

namespace SpawnParams

variable {params : SpawnParams} {step : Int32}

/-- The code is forwarded in the turn that brings the altitude onto its target. -/
theorem announcedAfter_of_settlesAt (active : params.flags.intersects .attractionActive = true) {last : Nat}
    (settles : params.altitude.SettlesAt step (last + 1)) (count : Nat) :
    params.announcedAfter step count = if count = last then [MotionStage.altitudeReached] else [] := by
  have before := settles count
  have after := settles (count + 1)
  rw [announcedAfter, active, Bool.true_and]
  by_cases now : count = last
  · rw [if_pos now, after.mpr (by omega), Bool.eq_false_iff.mpr (mt before.mp (by omega))]
    rfl
  · rw [if_neg now, if_neg]
    rw [Bool.and_eq_true, Bool.not_eq_true', after, ← Bool.not_eq_true, before]
    omega

/-- There is nothing to forward if the altitude is left alone, is on its target or cannot move. -/
theorem announcedAfter_eq_nil (forward : 0 ≤ step.toInt)
    (idle : params.flags.intersects .attractionActive = false ∨ params.altitude.isSettled = true ∨ step = 0)
    (count : Nat) : params.announcedAfter step count = [] := by
  rw [announcedAfter]
  rcases idle with inactive | settled | still
  · rw [inactive]
    rfl
  · rw [Pursuit.after_of_settled forward settled, Pursuit.after_of_settled forward settled, settled,
      Bool.not_true, Bool.and_false]
    rfl
  · rw [Pursuit.after_of_still still, Pursuit.after_of_still still, Bool.and_assoc, Bool.and_not_self,
      Bool.and_false]
    rfl

end SpawnParams

/-- The altitude of an actor after its turns. -/
structure Actor.Pursues (actor : Actor) (params : SpawnParams) (step : Int32) (past : List Turn) : Prop where
  active : actor.hasFlag .attractionActive = params.flags.intersects .attractionActive
  altitude : params.flags.intersects .attractionActive = true →
    actor.altitude = params.altitude.after step past.length

namespace Actor.Pursues

variable {actor : Actor} {params : SpawnParams} {step : Int32} {past : List Turn}

theorem codes_eq (pursues : actor.Pursues params step past) {frame : Frame}
    (settings : frame.config.attractionStep = step) :
    MotionStage.codes frame actor = params.announcedAfter step past.length := by
  rw [MotionStage.codes, SpawnParams.announcedAfter, pursues.active]
  cases active : params.flags.intersects .attractionActive with
  | false => rfl
  | true =>
    have climbed : (MotionStage.climb frame actor).altitude =
        params.altitude.after step (past.length + 1) := by
      rw [Pursuit.after_succ, ← pursues.altitude active, ← settings]
      rfl
    rw [MotionStage.announcement, climbed, pursues.altitude active]
    rfl

theorem ticked (pursues : actor.Pursues params step past) {frame : Frame}
    (settings : frame.config.attractionStep = step) (turn : Turn) :
    (actor.ticked frame).Pursues params step (past ++ [turn]) where
  active := by
    rw [← pursues.active, ← Pipeline.run_standard_actor Pipeline.isStandard_standard]
    exact (Pipeline.run_persists Pipeline.isStandard_standard actor).flags.intersects_eq (by decide)
  altitude active := by
    rw [altitude_ticked_eq, pursues.active, active, if_pos rfl, pursues.altitude active, settings,
      List.length_append, List.length_singleton, Pursuit.after_succ]

end Actor.Pursues

namespace Engine

/-- The codes that an actor is told in its turns are those of its pursuit. -/
theorem codes_pursue {config : Config} {start : Engine} (new : Engine.new config = .ok start)
    {id : ActorId} {params : SpawnParams} {before later : List Operation}
    (fresh : (drawnIds (before ++ .spawn id params :: later)).Nodup)
    (unedited : ∀ operation ∈ later, operation.edited? ≠ some id) :
    let turns := turnsOf id (start.moments (before ++ .spawn id params :: later))
    turns.map (fun turn => MotionStage.codes turn.frame turn.before) =
      (List.range turns.length).map (params.announcedAfter config.attractionStep) := by
  intro turns
  refine (life_induction (P := fun past actor => actor.Pursues params config.attractionStep past)
    (Q := fun past => past.map (fun turn => MotionStage.codes turn.frame turn.before) =
      (List.range past.length).map (params.announcedAfter config.attractionStep))
    new fresh unedited rfl ?_ ?_ ?_ ?_).turns
  · exact ⟨(ControlFlags.SameOutside.setSubMode _ _).intersects_eq (by decide), fun _ => rfl⟩
  · intro past frame actor settings _ codes pursues turn
    have step : frame.config.attractionStep = config.attractionStep := congrArg _ settings
    have after : turn.after = actor.ticked frame :=
      (Pipeline.pass_actor ..).trans (Pipeline.run_standard_actor Pipeline.isStandard_standard)
    refine ⟨?_, after ▸ pursues.ticked step turn⟩
    rw [List.map_append, codes, List.length_append, List.length_singleton, List.range_succ, List.map_append,
      List.map_singleton, List.map_singleton, ← pursues.codes_eq step]
  · intro past actor pursues
    exact ⟨((ControlFlags.SameOutside.remove _ _).intersects_eq (by decide)).trans pursues.active,
      pursues.altitude⟩
  · intro past actor handle pursues
    exact ⟨pursues.active, pursues.altitude⟩

theorem announcements_pursue {config : Config} {start : Engine} (new : Engine.new config = .ok start)
    {id : ActorId} {params : SpawnParams} {before later : List Operation}
    (fresh : (drawnIds (before ++ .spawn id params :: later)).Nodup)
    (unedited : ∀ operation ∈ later, operation.edited? ≠ some id) :
    let operations := before ++ .spawn id params :: later
    announcements id (start.moments operations) =
      (List.range (turnsOf id (start.moments operations)).length).flatMap fun count =>
        (params.announcedAfter config.attractionStep count).map fun code =>
          ((start.performAll before).clock.tick + UInt64.ofNat (count + 1), code) := by
  intro operations
  let turns := turnsOf id (start.moments operations)
  have codes : turns.map (fun turn => MotionStage.codes turn.frame turn.before) = _ :=
    codes_pursue new fresh unedited
  have ticks : turns.map (·.frame.clock.tick) = _ := (takesTurns_performAll new fresh).1
  have told : turns.map Turn.announcements = (List.range turns.length).map fun count =>
      (params.announcedAfter config.attractionStep count).map fun code =>
        ((start.performAll before).clock.tick + UInt64.ofNat (count + 1), code) := by
    refine List.ext_getElem (by simp) fun place bound _ => ?_
    rw [List.length_map] at bound
    have code := List.getElem_of_eq codes (i := place) (by simpa using bound)
    have tick := List.getElem_of_eq ticks (i := place) (by simpa using bound)
    simp only [List.getElem_map, List.getElem_range] at code tick ⊢
    rw [Turn.announcements, code, tick]
  have standard : ∀ moment ∈ start.moments operations, moment.engine.IsStandard :=
    fun moment member => standard_of_mem_moments (standard_of_new new) member
  rw [announcements_eq standard, List.flatMap_def, told, ← List.flatMap_def]

/-- From the spawn of an actor on, as long as nobody rewrites it directly, the motion stage forwards to it
that its altitude is reached: if the actor pursues a target that it is not on and can move, in the one turn
with which the steps of its pursuit are over, if it has that turn; and otherwise never. While the actor is
live it has a turn in every tick. -/
theorem altitude_announced_once {config : Config} {start : Engine} (new : Engine.new config = .ok start)
    {id : ActorId} {params : SpawnParams} {before later : List Operation}
    (fresh : (drawnIds (before ++ .spawn id params :: later)).Nodup)
    (unedited : ∀ operation ∈ later, operation.edited? ≠ some id) :
    let operations := before ++ .spawn id params :: later
    let announced := announcements id (start.moments operations)
    let born := (start.performAll before).clock.tick
    let lived := (turnsOf id (start.moments operations)).length
    let step := config.attractionStep
    (id ∈ (start.performAll operations).ids → lived = ticksOf later) ∧
      (params.flags.intersects .attractionActive = true → params.altitude.isSettled = false → 0 < step →
        ∃ count, params.altitude.SettlesAt step count ∧ count ≤ Pursuit.strides 65535 step ∧
          announced =
            if count ≤ lived then [(born + UInt64.ofNat count, MotionStage.altitudeReached)] else []) ∧
      (params.flags.intersects .attractionActive = false ∨ params.altitude.isSettled = true ∨ step = 0 →
        announced = []) := by
  intro operations announced born lived step
  have told : announced = _ := announcements_pursue new fresh unedited
  have valid : config.validate = .ok () := (withStages_eq_ok_iff.mp new).1
  have forward : 0 ≤ step.toInt := (Config.steps_of_validate valid).1
  refine ⟨(takesTurns_performAll new fresh).2, fun active unsettled moves => ?_, fun idle => ?_⟩
  · rw [Int32.lt_iff_toInt_lt, Int32.toInt_zero] at moves
    obtain ⟨count, settles⟩ := Pursuit.exists_settles moves params.altitude
    cases count with
    | zero =>
      have settled : params.altitude.isSettled = true := (settles.settled 0).mpr (Nat.le_refl 0)
      rw [unsettled] at settled
      cases settled
    | succ last =>
      have turn (count : Nat) : params.announcedAfter config.attractionStep count =
          if count = last then [MotionStage.altitudeReached] else [] :=
        SpawnParams.announcedAfter_of_settlesAt active settles.settled count
      simp only [turn, apply_ite (List.map _), List.map_singleton, List.map_nil] at told
      refine ⟨last + 1, settles.settled, settles.bound, told.trans ?_⟩
      split
      · next late =>
        have distinct : ((List.range lived).map fun count => count).Nodup := by
          rw [List.map_id']
          exact List.nodup_range
        exact flatMap_key_eq distinct (List.mem_range.mpr late) fun count =>
          [(born + UInt64.ofNat (count + 1), MotionStage.altitudeReached)]
      · refine List.flatMap_eq_nil_iff.mpr fun count listed => if_neg ?_
        have early : count < lived := List.mem_range.mp listed
        omega
  · rw [told]
    refine List.flatMap_eq_nil_iff.mpr fun count _ => ?_
    rw [SpawnParams.announcedAfter_eq_nil forward idle]
    rfl

/-- An altitude that overtakes its target on its way around is announced after two turns, though all divisions
of the actor are refused. -/
theorem altitude_announced_once_refused : ∃ start,
    Engine.new { pursuitDivisor := 0, attractionStep := 20000 } = .ok start ∧
    let params : SpawnParams :=
      { name := "chaser", mode := 1, flags := .attractionActive, altitude := ⟨32000, -32768⟩,
        timers := { fire := some 2 } }
    let later : List Operation :=
      [.tick fun _ => {}, .acknowledge ⟨.ofNat 1⟩, .run [fun _ => {}, fun _ => {}]]
    let before : List Operation := [.tick fun _ => {}]
    let operations := before ++ .spawn ⟨.ofNat 1⟩ params :: later
    let announced := announcements ⟨.ofNat 1⟩ (start.moments operations)
    let born := (start.performAll before).clock.tick
    let turns := turnsOf ⟨.ofNat 1⟩ (start.moments operations)
    turns.map (·.pass.error.isSome) = [true, true, true] ∧
      announced = [(born + 2, MotionStage.altitudeReached)] ∧
      ∃ count, params.altitude.SettlesAt 20000 count ∧ count ≤ Pursuit.strides 65535 20000 ∧
        announced =
          if count ≤ turns.length then [(born + UInt64.ofNat count, MotionStage.altitudeReached)] else [] := by
  refine ⟨_, rfl, ?_⟩
  intro params later before operations announced born turns
  refine ⟨by decide, by decide, ?_⟩
  exact (@altitude_announced_once { pursuitDivisor := 0, attractionStep := 20000 } _ rfl ⟨.ofNat 1⟩ params
    before later (by decide) (by decide)).2.1 (by decide) (by decide) (by decide)

end Engine
end Rotorcraft
