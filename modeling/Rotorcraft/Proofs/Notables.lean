import Rotorcraft.Proofs.Loading
import Rotorcraft.Proofs.Proceedings

/-! # The notable events of a run

The plain report of a run lists the turns that were cut short and the paths that could not be loaded. The former
it takes from the reports of the ticks, which are complete. The latter it takes from the log, and a log with a
capacity forgets: a failed load is listed as long as fewer events than the log can hold were logged after it.
-/

namespace Rotorcraft

namespace TransferStage

/-- The event of a load that fails: the asset is missing, or it does not fit the path of the actor. -/
def failure? (frame : Frame) (actor : Actor) : Option Event :=
  if actor.hasFlag .reloadPath then
    actor.pathAsset.bind fun key =>
      match frame.host.asset? key with
      | none => some (unavailableEvent frame actor key)
      | some bytes =>
        match CountedBuffer.copy bytes actor.path with
        | .error error => some (copyFailedEvent frame actor key error)
        | .ok _ => none
  else none

variable {frame : Frame} {actor : Actor}

theorem events_run (frame : Frame) (counters : TransferCounters) (actor : Actor) :
    (run frame counters actor).2.events = (failure? frame actor).toList := by
  have goes := goes_run frame counters actor
  rw [failure?]
  generalize run frame counters actor = outcome at goes
  cases goes with
  | idle unrequested => rw [unrequested]; rfl
  | keyless requested none => rw [requested, none]; rfl
  | unavailable requested asset missing => simp [requested, asset, missing]
  | refused requested asset loaded failed => simp [requested, asset, loaded, failed]
  | stored requested asset loaded success => simp [requested, asset, loaded, success]

theorem isFailedLoad_of_failure {event : Event} (fails : failure? frame actor = some event) :
    event.kind.isFailedLoad = true := by
  rw [failure?] at fails
  split at fails
  · obtain ⟨key, -, fails⟩ := Option.bind_eq_some_iff.mp fails
    split at fails
    · obtain rfl := Option.some.inj fails
      rfl
    · split at fails
      · obtain rfl := Option.some.inj fails
        rfl
      · cases fails
  · cases fails

end TransferStage

/-- The entry of a failed load. -/
def Event.warning (event : Event) : Report.Notable :=
  .warning event.tick event.description

namespace Turn

variable (turn : Turn)

/-- The entry of a turn that was cut short. -/
def fault? : Option Report.Notable :=
  turn.pass.error.map fun error => .fault turn.frame.clock.tick error.message

/-- The event of a path that could not be loaded in a turn that was not cut short. -/
def failedLoad? : Option Event :=
  if turn.pass.error.isSome then none
  else TransferStage.failure? turn.frame (turn.before.dispatched turn.frame)

def events (turns : List Turn) : List Event :=
  turns.flatMap (·.pass.events)

theorem events_append (turns more : List Turn) : events (turns ++ more) = events turns ++ events more :=
  List.flatMap_append

/-- Of the failed loads of some turns, those after which fewer events were logged than fit into a log; a capacity
of zero is no limit. -/
def remembered (capacity : UInt64) : List Turn → List Event
  | [] => []
  | turn :: later =>
    (if capacity = 0 ∨ (events later).length < capacity.toNat then turn.failedLoad?.toList else []) ++
      remembered capacity later

/-- A turn that logs its failed load last, after events of other kinds. -/
def EndsWithLoad (turn : Turn) : Prop :=
  ∃ quiet : List Event, (∀ event ∈ quiet, event.kind.isFailedLoad = false) ∧
    (∀ event ∈ turn.failedLoad?, event.kind.isFailedLoad = true) ∧
    turn.pass.events = quiet ++ turn.failedLoad?.toList

variable {turn : Turn}

/-- What comes before the transfer does not load anything. -/
theorem endsWithLoad_pass {frame : Frame} {stages : List Stage} (standard : Pipeline.IsStandard stages)
    (actor : Actor) : EndsWithLoad ⟨frame, actor, Pipeline.pass frame stages actor⟩ := by
  have told : ∀ event ∈ (actor.codes frame).map (frame.forwardEvent actor.id), event.kind.isFailedLoad = false := by
    intro event listed
    obtain ⟨code, -, rfl⟩ := List.mem_map.mp listed
    rfl
  have logged : (Pipeline.pass frame stages actor).events = _ := Pipeline.pass_events standard actor
  have aborted : (Pipeline.pass frame stages actor).error = (DispatchStage.refusal? frame actor).map .division := by
    rw [Pipeline.pass_error, Pipeline.run_error standard]
  cases refused : DispatchStage.refusal? frame actor with
  | some fault =>
    rw [refused] at logged aborted
    have silent : failedLoad? ⟨frame, actor, Pipeline.pass frame stages actor⟩ = none := by
      rw [failedLoad?, aborted]
      rfl
    rw [EndsWithLoad, silent]
    refine ⟨_, ?_, nofun, (List.append_nil _).symm⟩
    rw [logged]
    exact List.forall_mem_append.mpr ⟨told, List.forall_mem_singleton.mpr rfl⟩
  | none =>
    rw [refused] at logged aborted
    have tried : failedLoad? ⟨frame, actor, Pipeline.pass frame stages actor⟩ =
        TransferStage.failure? frame (actor.dispatched frame) := by
      rw [failedLoad?, aborted]
      rfl
    rw [EndsWithLoad, tried]
    refine ⟨_, told, fun event fails => TransferStage.isFailedLoad_of_failure fails, ?_⟩
    rw [← TransferStage.events_run frame {}]
    exact logged

theorem endsWithLoad_of_mem {moment : Moment} (standard : moment.engine.IsStandard) (member : turn ∈ moment.turns) :
    turn.EndsWithLoad := by
  obtain ⟨entry, -, rfl⟩ := List.mem_map.mp member
  exact endsWithLoad_pass standard entry.2

/-- A log that shows the newest events shows the failed loads that it remembers. -/
theorem filter_newest_events (capacity : UInt64) {turns : List Turn} (turnwise : ∀ turn ∈ turns, turn.EndsWithLoad)
    (earlier : List Event) (quiet : ∀ event ∈ earlier, event.kind.isFailedLoad = false) :
    (EventLog.newest capacity (earlier ++ events turns)).filter (fun event => event.kind.isFailedLoad) =
      remembered capacity turns := by
  have skip {silent : List Event} (quiet : ∀ event ∈ silent, event.kind.isFailedLoad = false) (more : List Event) :
      (EventLog.newest capacity (silent ++ more)).filter (fun event => event.kind.isFailedLoad) =
        (EventLog.newest capacity more).filter (fun event => event.kind.isFailedLoad) := by
    obtain ⟨kept, suffix, same⟩ := EventLog.exists_newest_append capacity silent more
    rw [same, List.filter_append, List.filter_eq_nil_iff.mpr, List.nil_append]
    intro event listed
    exact Bool.eq_false_iff.mp (quiet event (suffix.subset listed))
  induction turns generalizing earlier with
  | nil =>
    rw [skip quiet]
    exact congrArg (List.filter _) (EventLog.newest_nil capacity)
  | cons turn later ih =>
    obtain ⟨first, others⟩ := List.forall_mem_cons.mp turnwise
    obtain ⟨silent, before, loud, logged⟩ := first
    have rest := ih others [] nofun
    rw [List.nil_append] at rest
    have split : events (turn :: later) = silent ++ (turn.failedLoad?.toList ++ events later) := by
      rw [events, List.flatMap_cons, logged, List.append_assoc]
      rfl
    -- a failed load is the last event of its turn, so those of the later turns are all that come after it
    rw [skip quiet, split, skip before, remembered, ← rest]
    cases fails : turn.failedLoad? with
    | none =>
      rw [Option.toList_none, ite_self]
      rfl
    | some event =>
      have kept : [event].filter (fun event => event.kind.isFailedLoad) = [event] :=
        List.filter_eq_self.mpr (List.forall_mem_singleton.mpr (loud event fails))
      rw [Option.toList_some, List.singleton_append, EventLog.newest_cons, List.filter_append]
      split
      · rw [kept]
      · rfl

theorem remembered_zero (turns : List Turn) : remembered 0 turns = turns.filterMap failedLoad? := by
  induction turns with
  | nil => rfl
  | cons turn later ih =>
    rw [remembered, ih, if_pos (.inl rfl), List.filterMap_cons]
    cases turn.failedLoad? <;> rfl

section
variable {turns : List Turn} (turnwise : ∀ turn ∈ turns, turn.EndsWithLoad)
include turnwise

theorem filter_events : (events turns).filter (fun event => event.kind.isFailedLoad) =
    turns.filterMap failedLoad? := by
  rw [← remembered_zero, ← filter_newest_events 0 turnwise [] nofun]
  rfl

/-- What a log remembers is the newest part of what failed. -/
theorem remembered_suffix (capacity : UInt64) : remembered capacity turns <:+ turns.filterMap failedLoad? := by
  rw [← filter_events turnwise, ← filter_newest_events capacity turnwise [] nofun]
  exact (EventLog.newest_suffix capacity _).filter _

/-- A log without a limit, or with room for all events, remembers everything. -/
theorem remembered_eq {capacity : UInt64} (room : capacity = 0 ∨ (events turns).length ≤ capacity.toNat) :
    remembered capacity turns = turns.filterMap failedLoad? := by
  rcases room with rfl | fits
  · exact remembered_zero turns
  · rw [← filter_events turnwise, ← filter_newest_events capacity turnwise [] nofun,
      List.nil_append, EventLog.newest_eq_self fits]

end

end Turn

namespace Engine

/-- The turns of a run of some ticks, in the order in which they are taken. -/
def runTurns (engine : Engine) (ticks : Nat) : List Turn :=
  (engine.momentsWith (List.replicate ticks fun _ => engine.host)).flatMap Moment.turns

variable {engine : Engine}

theorem log_run {capacity : UInt64} {events : List Event} (limited : engine.log.capacity = capacity)
    (shown : engine.log.toList = EventLog.newest capacity events) (ticks : Nat) :
    (engine.run ticks).engine.log.toList =
      EventLog.newest capacity (events ++ Turn.events (engine.runTurns ticks)) := by
  have whole : ∀ answers : List HostAnswers,
      (engine.runWith answers).engine.log.capacity = capacity ∧ (engine.runWith answers).engine.log.toList =
        EventLog.newest capacity (events ++ Turn.events ((engine.momentsWith answers).flatMap Moment.turns)) := by
    refine momentsWith_induction (P := fun past later => later.log.capacity = capacity ∧ later.log.toList =
      EventLog.newest capacity (events ++ Turn.events (past.flatMap Moment.turns))) [] engine ⟨limited, ?_⟩ ?_
    · exact shown.trans (congrArg _ (List.append_nil events).symm)
    · rintro earlier moment ⟨limited, shown⟩
      rw [moment.log_ticked]
      subst limited
      refine ⟨EventLog.capacity_append _ _, ?_⟩
      rw [EventLog.toList_append_newest shown, List.append_assoc, List.flatMap_append, List.flatMap_singleton,
        Turn.events_append]
      rfl
  exact (whole _).2

theorem reports_run (engine : Engine) (ticks : Nat) :
    ((engine.run ticks).reports.flatMap fun report =>
        report.faults.map fun entry => Report.Notable.fault report.tick entry.2.message) =
      (engine.runTurns ticks).filterMap Turn.fault? := by
  rw [run, reports_runWith, runTurns, List.flatMap_map, List.filterMap_flatMap]
  congr 1
  funext moment
  rw [moment.faults_ticked, List.map_filterMap]
  refine List.filterMap_congr fun turn member => ?_
  obtain ⟨-, -, host, framed⟩ := Moment.mem_turns member
  rw [Turn.fault?, framed]
  cases turn.pass.error <;> rfl

end Engine
namespace Report

/-- The columns of an entry: what it begins with, its tick and what it says. -/
def Notable.columns : Notable → String × UInt64 × String
  | .fault tick message => ("FAULT", tick, message)
  | .warning tick description => ("WARN", tick, description)

/-- A tick has at least three columns, in which it stands to the right. -/
theorem toList_tickLabel (tick : UInt64) : (tickLabel tick).toList =
    "[tick ".toList ++ (Nat.toDigits 10 tick.toNat).leftpad 3 ' ' ++ "]".toList := by
  have digits : (toString tick.toNat).toList = Nat.toDigits 10 tick.toNat := String.toList_ofList
  have width : (toString tick.toNat).length = (Nat.toDigits 10 tick.toNat).length := by
    rw [← String.length_toList, digits]
  simp only [tickLabel, String.toList_append, String.toList_ofList, width, digits, List.leftpad]
  simp only [List.append_assoc]

/-- Without styles, every entry has the same columns, of which the first is seven wide. -/
theorem toList_notableLine (entry : Notable) : (notableLine false entry).toList =
    "  ".toList ++ entry.columns.1.toList.rightpad 7 ' ' ++ (tickLabel entry.columns.2.1).toList ++
      " ".toList ++ entry.columns.2.2.toList := by
  cases entry with
  | fault tick message =>
    have label : "FAULT".toList.rightpad 7 ' ' = "FAULT".toList ++ "  ".toList := by decide
    simp only [notableLine, Notable.columns, String.toList_append, label, List.append_assoc]
    rfl
  | warning tick description =>
    have label : "WARN".toList.rightpad 7 ' ' = "WARN".toList ++ "   ".toList := by decide
    simp only [notableLine, Notable.columns, String.toList_append, label, List.append_assoc]
    rfl

end Report

namespace Command

/-- The text of a plain report with some notable entries, for which there is a section if there are any. -/
def plainText (styled : Bool) (scenario : String) (ran : Ran) (entries : List Report.Notable) : String :=
  text (Report.summary styled scenario ran ++
    (if entries = [] then []
      else Report.heading styled "Notable Events" :: entries.map (Report.notableLine styled) ++ [""]) ++
    Report.heading styled "Actor Status" :: "" :: (Report.statusTable styled ran.engine.actors).lines ++ [""])

theorem text_cons (line : String) (rest : List String) : text (line :: rest) = line ++ "\n" ++ text rest := by
  rw [text, List.map_cons, String.join_cons]
  rfl

theorem text_append (first second : List String) : text (first ++ second) = text first ++ text second := by
  rw [text, List.map_append, String.join_append]
  rfl

/-- The entries are printed one below the other, with their heading between the totals and the table. -/
theorem exists_plainText_eq (scenario : String) (ran : Ran) {entries : List Report.Notable} (listed : entries ≠ []) :
    ∃ before after, plainText false scenario ran entries =
      before ++ ("  Notable Events\n" ++ text (entries.map (Report.notableLine false)) ++ "\n") ++ after := by
  have heading : Report.heading false "Notable Events" = "  Notable Events" := rfl
  have opening : "  Notable Events\n" = "  Notable Events" ++ "\n" := rfl
  have blank : text [""] = "\n" := rfl
  refine ⟨text (Report.summary false scenario ran), text (Report.heading false "Actor Status" :: "" ::
    (Report.statusTable false ran.engine.actors).lines ++ [""]), ?_⟩
  rw [plainText, if_neg listed, List.append_assoc, text_append, text_append, text_append, text_cons, heading, blank,
    opening]

section
variable {files : Files} {ids : IdSupply} {path : String} {scenario : Scenario} {start : Engine}
  (prepared : prepare files ids path = .ok (scenario, start))
include prepared

/-- An engine that was just set up has the standard pipeline, and so has it at every tick. -/
theorem endsWithLoad_of_prepare (ticks : Nat) : ∀ turn ∈ start.runTurns ticks, turn.EndsWithLoad := by
  intro turn member
  have described := (Scenario.of_build (prepare_eq_ok_iff.mp prepared).2).1
  have standard : start.IsStandard := by
    rw [Engine.IsStandard, described.stages]
    exact Pipeline.isStandard_standard
  obtain ⟨moment, run, taken⟩ := List.mem_flatMap.mp member
  have listed : moment ∈ start.moments [.run (List.replicate ticks fun _ => start.host)] := by
    rw [Engine.moments]
    exact List.mem_append_left _ run
  exact Turn.endsWithLoad_of_mem (Engine.standard_of_mem_moments standard listed) taken

/-- The entries of a run: every turn that was cut short, and every failed load that the log remembers. -/
theorem notables_run (ticks : Nat) :
    Report.notables (start.run ticks).reports (start.run ticks).engine.log.toList =
      (start.runTurns ticks).filterMap Turn.fault? ++
        (Turn.remembered scenario.config.maxEvents (start.runTurns ticks)).map Event.warning := by
  have described := (Scenario.of_build (prepare_eq_ok_iff.mp prepared).2).1
  have announced : ∀ event ∈ scenario.announcements ids, event.kind.isFailedLoad = false := by
    intro event listed
    obtain ⟨index, bound, rfl⟩ := List.mem_mapIdx.mp listed
    rfl
  rw [Report.notables, start.reports_run ticks, Engine.log_run described.capacity described.log ticks,
    Turn.filter_newest_events _ (endsWithLoad_of_prepare prepared ticks) _ announced]
  rfl

theorem run_eq_plainText {ticks : Nat} (room : ticks ≤ TickReport.limit) (styled : Bool) :
    run files ids { ticks := ticks, styled := styled } path =
      .ok (plainText styled scenario.name (start.run ticks)
        ((start.runTurns ticks).filterMap Turn.fault? ++
          (Turn.remembered scenario.config.maxEvents (start.runTurns ticks)).map Event.warning)) := by
  rw [← notables_run prepared, run_of_room room, prepared]
  simp only [Except.map, Bool.false_eq_true, if_false, Report.lines, plainText, Report.notableSection,
    List.isEmpty_iff]

/-- The plain report of a run lists every turn that was cut short, and every failed load after which fewer events
were logged than the log can hold, in the order in which they happened; the section is left out if there are none.
The failed loads that are missing are the oldest ones, and none is missing if the log holds all events. If no list
can hold the reports of so many ticks, there are no turns to tell of. -/
theorem run_lists_notables (ticks : Nat) (styled : Bool) :
    run files ids { ticks := ticks, styled := styled } path =
        (if ticks ≤ TickReport.limit then
          .ok (plainText styled scenario.name (start.run ticks)
            ((start.runTurns ticks).filterMap Turn.fault? ++
              (Turn.remembered scenario.config.maxEvents (start.runTurns ticks)).map Event.warning))
        else .error .capacityOverflow) ∧
      Turn.remembered scenario.config.maxEvents (start.runTurns ticks) <:+
        (start.runTurns ticks).filterMap Turn.failedLoad? ∧
      (scenario.config.maxEvents = 0 ∨
          (Turn.events (start.runTurns ticks)).length ≤ scenario.config.maxEvents.toNat →
        Turn.remembered scenario.config.maxEvents (start.runTurns ticks) =
          (start.runTurns ticks).filterMap Turn.failedLoad?) := by
  have turnwise := endsWithLoad_of_prepare prepared ticks
  refine ⟨?_, Turn.remembered_suffix turnwise _, Turn.remembered_eq turnwise⟩
  split
  · next room => exact run_eq_plainText prepared room styled
  · next full =>
    rw [run_of_crowded (Nat.not_le.mp full), prepared]
    rfl

end

/-- An actor that cannot pursue and one whose asset is missing: a log with room for one event forgets the refusal
and remembers the failed load, and the report lists both. -/
theorem run_lists_notables_of_two :
    let text := "\x7b\"config\":\x7b\"max_events\":1,\"pursuit_divisor\":0\x7d,\"actors\":[" ++
      "\x7b\"name\":\"lead\",\"mode\":1\x7d," ++
      "\x7b\"name\":\"wing\",\"flags\":\"RELOAD_PATH\",\"path_asset\":\"route\"\x7d]\x7d"
    let files : Files := .ofReadings [("scenario.json", .ok text.toUTF8.toList)]
    let ids : IdSupply := ⟨fun index => ⟨.ofNat index⟩, fun index => ⟨.ofNat index⟩⟩
    ∃ scenario start, prepare files ids "scenario.json" = .ok (scenario, start) ∧
      (start.run 1).engine.log.toList.map (·.description) = ["wing could not load 'route'"] ∧
      run files ids { ticks := 1 } "scenario.json" =
        .ok (plainText false scenario.name (start.run 1)
          [.fault 1 "division by zero: 0 / 0", .warning 1 "wing could not load 'route'"]) ∧
      ∃ before after, run files ids { ticks := 1 } "scenario.json" =
        .ok (before ++ ("  Notable Events\n" ++
          "  FAULT  [tick   1] division by zero: 0 / 0\n" ++
          "  WARN   [tick   1] wing could not load 'route'\n" ++ "\n") ++ after) := by
  intro text files ids
  let scenario : Scenario :=
    { config := { maxEvents := 1, pursuitDivisor := 0 }
      actors := [{ params := { name := "lead", mode := 1 } },
        { params := { name := "wing", flags := .reloadPath, pathAsset := some "route" } }] }
  have read : loadScenario files "scenario.json" = .ok scenario := by decide +kernel
  have seen : (scenario.build (assetHost files "scenario.json") ids).toOption.map (fun start =>
      ((start.run 1).engine.log.toList.map (·.description), (start.runTurns 1).filterMap Turn.fault?,
        (Turn.remembered 1 (start.runTurns 1)).map Event.warning)) =
      some (["wing could not load 'route'"], [.fault 1 "division by zero: 0 / 0"],
        [.warning 1 "wing could not load 'route'"]) := by decide +kernel
  obtain ⟨start, built, seen⟩ := exists_ok_of_map seen
  obtain ⟨logged, seen⟩ := Prod.mk.inj seen
  obtain ⟨faults, warnings⟩ := Prod.mk.inj seen
  have prepared := prepare_eq_ok_iff.mpr ⟨read, built⟩
  have listed := (run_lists_notables prepared 1 false).1
  rw [if_pos (by decide), faults, show scenario.config.maxEvents = 1 from rfl, warnings] at listed
  refine ⟨scenario, start, prepared, logged, listed, ?_⟩
  obtain ⟨before, after, shown⟩ := exists_plainText_eq scenario.name (start.run 1)
    (List.cons_ne_nil (.fault 1 "division by zero: 0 / 0") [.warning 1 "wing could not load 'route'"])
  refine ⟨before, after, listed.trans (congrArg Except.ok (shown.trans ?_))⟩
  rfl

/-- An actor whose asset is missing and whose timer fires one tick later: a log with room for one event forgets
the failed load, and the report has no section that would list it. -/
theorem run_forgets_failed_load :
    let text := "\x7b\"config\":\x7b\"max_events\":1\x7d,\"actors\":[\x7b\"name\":\"lead\"," ++
      "\"flags\":\"RELOAD_PATH\",\"path_asset\":\"route\",\"timers\":\x7b\"fire\":2\x7d\x7d]\x7d"
    let files : Files := .ofReadings [("scenario.json", .ok text.toUTF8.toList)]
    let ids : IdSupply := ⟨fun index => ⟨.ofNat index⟩, fun index => ⟨.ofNat index⟩⟩
    ∃ scenario start, prepare files ids "scenario.json" = .ok (scenario, start) ∧
      (start.runTurns 2).filterMap Turn.failedLoad? =
        [⟨1, .assetUnavailable (ids.actor 0) "route", "lead could not load 'route'"⟩] ∧
      run files ids { ticks := 2 } "scenario.json" = .ok (plainText false scenario.name (start.run 2) []) ∧
      plainText false scenario.name (start.run 2) [] ≠
        plainText false scenario.name (start.run 2) [.warning 1 "lead could not load 'route'"] := by
  intro text files ids
  let scenario : Scenario :=
    { config := { maxEvents := 1 }
      actors := [{ params :=
        { name := "lead", flags := .reloadPath, timers := { fire := some 2 }, pathAsset := some "route" } }] }
  have read : loadScenario files "scenario.json" = .ok scenario := by decide +kernel
  have seen : (scenario.build (assetHost files "scenario.json") ids).toOption.map (fun start =>
      ((start.runTurns 2).filterMap Turn.failedLoad?, (start.runTurns 2).filterMap Turn.fault?,
        Turn.remembered 1 (start.runTurns 2), decide (plainText false scenario.name (start.run 2) [] =
          plainText false scenario.name (start.run 2) [.warning 1 "lead could not load 'route'"]))) =
      some ([⟨1, .assetUnavailable (ids.actor 0) "route", "lead could not load 'route'"⟩], [], [], false) := by
    decide +kernel
  obtain ⟨start, built, seen⟩ := exists_ok_of_map seen
  obtain ⟨failed, seen⟩ := Prod.mk.inj seen
  obtain ⟨faults, seen⟩ := Prod.mk.inj seen
  obtain ⟨forgotten, differs⟩ := Prod.mk.inj seen
  have prepared := prepare_eq_ok_iff.mpr ⟨read, built⟩
  have printed := run_eq_plainText prepared (show 2 ≤ TickReport.limit by decide) false
  rw [faults, show scenario.config.maxEvents = 1 from rfl, forgotten] at printed
  exact ⟨scenario, start, prepared, failed, printed, of_decide_eq_false differs⟩

end Command
end Rotorcraft
