import Mathlib.Data.List.Nodup
import Rotorcraft.Proofs.Operation

/-! # Turns

Operations come down to ticks and what happens between them, and in every tick each actor takes its turn.
The ticks that operations run are listed with the engine as each of them found it, so that what is true of
every tick, or of every turn of an actor, can be said of a list. Everything that operations report, log
during ticks and tell the host is read off this list.
-/

namespace Rotorcraft

/-- The part of one actor in a tick: what its stages read, the actor before it, and what the pipeline made
of it. -/
structure Turn where
  frame : Frame
  before : Actor
  pass : Pass

def Turn.after (turn : Turn) : Actor :=
  turn.pass.actor

/-- A tick, by the engine that runs it and the answers that the host gives meanwhile. -/
structure Moment where
  engine : Engine
  answers : HostAnswers

namespace Moment

variable (moment : Moment)

def ticked : Ticked :=
  moment.engine.tickWith moment.answers

def turns : List Turn :=
  (moment.engine.advanced.framed moment.answers).map fun entry =>
    ⟨entry.1, entry.2, Pipeline.pass entry.1 moment.engine.stages entry.2⟩

theorem map_pass_turns : moment.turns.map (·.pass) = moment.engine.passes moment.answers := by
  rw [turns, List.map_map]
  rfl

/-- The actors that take a turn are the live ones. -/
theorem map_before_turns : moment.turns.map (·.before) = moment.engine.actors := by
  rw [turns, List.map_map]
  exact Engine.framed_actors moment.engine.advanced moment.answers

theorem length_turns : moment.turns.length = moment.engine.actors.length := by
  rw [← map_before_turns, List.length_map]

theorem actors_ticked : moment.ticked.engine.actors = moment.turns.map (·.after) := by
  rw [ticked, Engine.tickWith_actors, ← map_pass_turns, List.map_map]
  rfl

theorem log_ticked : moment.ticked.engine.log =
    moment.engine.log.append (moment.turns.flatMap (·.pass.events)) := by
  rw [ticked, Engine.tickWith_log, ← map_pass_turns, List.flatMap_map]

theorem calls_ticked : moment.ticked.calls = moment.turns.flatMap (·.pass.calls) := by
  rw [ticked, Engine.tickWith_calls, ← map_pass_turns, List.flatMap_map]

theorem faults_ticked : moment.ticked.report.faults = moment.turns.filterMap fun turn =>
    turn.pass.error.map fun error => (turn.after.id, error) := by
  rw [ticked, Engine.tickWith_report, ← map_pass_turns, Engine.report, List.filterMap_map]
  rfl

variable {moment}

/-- A turn is the way of a live actor through the pipeline. -/
theorem mem_turns {turn : Turn} (member : turn ∈ moment.turns) :
    turn.before ∈ moment.engine.actors ∧
      turn.pass = Pipeline.pass turn.frame moment.engine.stages turn.before ∧
      ∃ host, turn.frame = moment.engine.advanced.frame host := by
  obtain ⟨entry, entered, rfl⟩ := List.mem_map.mp member
  obtain ⟨live, host⟩ := Engine.mem_framed entered
  exact ⟨live, rfl, host⟩

theorem after_eq {turn : Turn} (member : turn ∈ moment.turns) :
    turn.after = (Pipeline.run turn.frame moment.engine.stages turn.before).2.actor := by
  rw [Turn.after, (mem_turns member).2.1, Pipeline.pass_actor]

/-- Every actor after a tick has had a turn. -/
theorem exists_turn {after : Actor} (live : after ∈ moment.ticked.engine.actors) :
    ∃ turn ∈ moment.turns, turn.after = after := by
  rw [actors_ticked] at live
  exact List.mem_map.mp live

theorem id_after (standard : moment.engine.IsStandard) {turn : Turn} (member : turn ∈ moment.turns) :
    turn.after.id = turn.before.id := by
  rw [after_eq member]
  exact (Pipeline.run_persists standard turn.before).id

/-- Where identifiers are distinct, an actor has one turn. -/
theorem turn_unique (distinct : moment.engine.ids.Nodup) {first second : Turn}
    (firstMember : first ∈ moment.turns) (secondMember : second ∈ moment.turns)
    (same : first.before.id = second.before.id) : first = second := by
  have ids : moment.turns.map (fun turn => turn.before.id) = moment.engine.ids := by
    rw [Engine.ids, ← map_before_turns, List.map_map]
    rfl
  rw [← ids] at distinct
  exact List.inj_on_of_nodup_map distinct firstMember secondMember same

end Moment

namespace Engine

def momentsWith (engine : Engine) : List HostAnswers → List Moment
  | [] => []
  | answers :: later => ⟨engine, answers⟩ :: (engine.tickWith answers).engine.momentsWith later

def momentsOf (engine : Engine) : Operation → List Moment
  | .tick answers => engine.momentsWith [answers]
  | .run answers => engine.momentsWith answers
  | _ => []

/-- The ticks that operations run, one after the other. -/
def moments (engine : Engine) : List Operation → List Moment
  | [] => []
  | operation :: rest => engine.momentsOf operation ++ (engine.perform operation).moments rest

theorem moments_append (engine : Engine) (first second : List Operation) :
    engine.moments (first ++ second) =
      engine.moments first ++ (engine.performAll first).moments second := by
  induction first generalizing engine with
  | nil => rfl
  | cons operation rest ih =>
    rw [List.cons_append, moments, ih, moments, List.append_assoc]
    rfl

theorem moments_append_singleton (engine : Engine) (earlier : List Operation) (operation : Operation) :
    engine.moments (earlier ++ [operation]) =
      engine.moments earlier ++ (engine.performAll earlier).momentsOf operation := by
  rw [moments_append, moments, moments, List.append_nil]

theorem momentsOf_eq_nil (engine : Engine) {operation : Operation} (instant : operation.ticks = 0) :
    engine.momentsOf operation = [] := by
  cases operation with
  | tick answers => cases instant
  | run answers =>
    obtain rfl := List.length_eq_zero_iff.mp instant
    rfl
  | _ => rfl

theorem length_momentsWith (engine : Engine) (answers : List HostAnswers) :
    (engine.momentsWith answers).length = answers.length := by
  induction answers generalizing engine with
  | nil => rfl
  | cons first later ih => rw [momentsWith, List.length_cons, ih, List.length_cons]

/-- Every tick that operations run is listed. -/
theorem length_moments (engine : Engine) (operations : List Operation) :
    (engine.moments operations).length = ticksOf operations := by
  induction operations generalizing engine with
  | nil => rfl
  | cons operation rest ih =>
    have first : (engine.momentsOf operation).length = operation.ticks := by
      cases operation with
      | run answers => exact length_momentsWith engine answers
      | _ => rfl
    rw [moments, List.length_append, first, ih, ticksOf_cons]

theorem reports_runWith (engine : Engine) (answers : List HostAnswers) :
    (engine.runWith answers).reports = (engine.momentsWith answers).map (·.ticked.report) := by
  induction answers generalizing engine with
  | nil => rfl
  | cons first later ih =>
    rw [runWith, momentsWith, List.map_cons, ih]
    rfl

theorem calls_runWith (engine : Engine) (answers : List HostAnswers) :
    (engine.runWith answers).calls = (engine.momentsWith answers).flatMap (·.ticked.calls) := by
  induction answers generalizing engine with
  | nil => rfl
  | cons first later ih =>
    rw [runWith, momentsWith, List.flatMap_cons, ih]
    rfl

/-- What holds after each tick of a run, given the ticks before it, holds after the run. -/
theorem momentsWith_induction {P : List Moment → Engine → Prop} (past : List Moment) (start : Engine)
    (initial : P past start)
    (tick : ∀ earlier moment, P earlier moment.engine → P (earlier ++ [moment]) moment.ticked.engine)
    (answers : List HostAnswers) :
    P (past ++ start.momentsWith answers) (start.runWith answers).engine := by
  induction answers generalizing start past with
  | nil =>
    rw [momentsWith, List.append_nil]
    exact initial
  | cons first later ih =>
    have next := ih _ _ (tick past ⟨start, first⟩ initial)
    rwa [List.append_assoc] at next

/-- What every tick passes on, given the ticks before it, and every other operation leaves as it is, holds
after any operations. -/
theorem moments_induction {P : List Moment → Engine → Prop} {start : Engine} (initial : P [] start)
    {operations : List Operation}
    (tick : ∀ past moment, P past moment.engine → P (past ++ [moment]) moment.ticked.engine)
    (instant : ∀ earlier operation later, operations = earlier ++ operation :: later →
      operation.ticks = 0 → P (start.moments earlier) (start.performAll earlier) →
      P (start.moments earlier) ((start.performAll earlier).perform operation)) :
    P (start.moments operations) (start.performAll operations) := by
  suffices all : ∀ earlier later, operations = earlier ++ later →
      P (start.moments earlier) (start.performAll earlier) from
    all operations [] (List.append_nil operations).symm
  intro earlier
  induction earlier using List.reverseRecOn with
  | nil => exact fun _ _ => initial
  | append_singleton earlier operation ih =>
    intro later split
    have regrouped : operations = earlier ++ operation :: later := by simpa using split
    have before := ih (operation :: later) regrouped
    rw [moments_append_singleton, performAll_append]
    by_cases quick : operation.ticks = 0
    · rw [momentsOf_eq_nil _ quick, List.append_nil]
      exact instant earlier operation later regrouped quick before
    · cases operation with
      | tick answers => exact tick _ ⟨start.performAll earlier, answers⟩ before
      | run answers => exact momentsWith_induction _ _ before tick answers
      | _ => exact absurd rfl quick

/-- The ticks of operations are run by engines that an engine becomes, with its kinds of stages. -/
theorem standard_of_mem_moments {start : Engine} (standard : start.IsStandard) {operations : List Operation}
    {moment : Moment} (member : moment ∈ start.moments operations) : moment.engine.IsStandard := by
  suffices all : (start.performAll operations).IsStandard ∧
      ∀ moment ∈ start.moments operations, moment.engine.IsStandard from all.2 moment member
  refine moments_induction
    (P := fun past engine => engine.IsStandard ∧ ∀ moment ∈ past, moment.engine.IsStandard) ?_ ?_ ?_
  · exact ⟨standard, by simp⟩
  · rintro past now ⟨kinds, before⟩
    exact ⟨kinds.tickWith _, List.forall_mem_append.mpr ⟨before, List.forall_mem_singleton.mpr kinds⟩⟩
  · rintro earlier operation later - - ⟨kinds, before⟩
    exact ⟨(continues_perform _ operation).standard kinds, before⟩

end Engine

namespace Reply

def reports : Reply → List TickReport
  | .ticked reports _ => reports
  | _ => []

def calls : Reply → List HostCall
  | .ticked _ calls => calls
  | _ => []

end Reply

namespace Engine

/-- An operation reports and calls what its ticks report and call, so nothing if it runs none. -/
theorem reply_told (engine : Engine) (operation : Operation) :
    (engine.reply operation).reports = (engine.momentsOf operation).map (·.ticked.report) ∧
      (engine.reply operation).calls = (engine.momentsOf operation).flatMap (·.ticked.calls) := by
  cases operation with
  | tick answers => exact ⟨rfl, (List.append_nil _).symm⟩
  | run answers => exact ⟨reports_runWith engine answers, calls_runWith engine answers⟩
  | spawn id params =>
    simp only [reply]
    split <;> exact ⟨rfl, rfl⟩
  | despawn id =>
    simp only [reply]
    split <;> exact ⟨rfl, rfl⟩
  | acknowledge id =>
    simp only [reply]
    split <;> exact ⟨rfl, rfl⟩
  | attachTurret id handle turret =>
    simp only [reply]
    split <;> exact ⟨rfl, rfl⟩
  | _ => exact ⟨rfl, rfl⟩

theorem reports_replies (engine : Engine) (operations : List Operation) :
    (engine.replies operations).flatMap Reply.reports =
      (engine.moments operations).map (·.ticked.report) := by
  induction operations generalizing engine with
  | nil => rfl
  | cons operation rest ih =>
    rw [replies, moments, List.flatMap_cons, ih, (reply_told engine operation).1, List.map_append]

theorem calls_replies (engine : Engine) (operations : List Operation) :
    (engine.replies operations).flatMap Reply.calls =
      (engine.moments operations).flatMap (·.ticked.calls) := by
  induction operations generalizing engine with
  | nil => rfl
  | cons operation rest ih =>
    rw [replies, moments, List.flatMap_cons, ih, (reply_told engine operation).2, List.flatMap_append]

end Engine
end Rotorcraft
