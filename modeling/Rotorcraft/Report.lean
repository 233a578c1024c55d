import Rotorcraft.Engine
import Rotorcraft.Terminal.Style
import Rotorcraft.Terminal.Table

/-! # The report of a run

The report names the run, lists its events or only the notable ones, and shows the final state of
every actor in a table. Styles are shown on request.
-/

namespace Rotorcraft.Report

open Terminal

/-- A number right-aligned in at least three columns. -/
def tickLabel (tick : UInt64) : String :=
  let digits := toString tick.toNat
  "[tick " ++ String.ofList (List.replicate (3 - digits.length) ' ') ++ digits ++ "]"

/-- The style of an event in the list of all events. -/
def eventStyle : EventKind → Style
  | .divisionFault _ _ => { bold := true, color := some .red }
  | .assetUnavailable _ _ => { color := some .yellow }
  | .copyFailed _ _ => { color := some .yellow }
  | .forwarded _ _ _ => { color := some .cyan }
  | .spawned _ => { color := some .green }
  | .despawned _ => { color := some .green }
  | .custom _ _ => {}

def heading (styled : Bool) (text : String) : String :=
  "  " ++ ({ bold := true, underline := true } : Style).apply styled text

/-- An entry of the notable events. -/
inductive Notable where
  /-- The tick of an actor was cut short. -/
  | fault (tick : UInt64) (message : String)
  /-- A path could not be loaded. -/
  | warning (tick : UInt64) (description : String)
deriving DecidableEq

/-- The entries of reports and of a log: first the faults, then the failed loads. -/
def notables (reports : List TickReport) (events : List Event) : List Notable :=
  (reports.flatMap fun report =>
      report.faults.map fun entry => .fault report.tick entry.2.message) ++
    (events.filter fun event => event.kind.isFailedLoad).map fun event =>
      .warning event.tick event.description

/-- The line of a notable event. -/
def notableLine (styled : Bool) : Notable → String
  | .fault tick message =>
    "  " ++ ({ bold := true, color := some .red } : Style).apply styled "FAULT" ++ "  " ++
      tickLabel tick ++ " " ++ message
  | .warning tick description =>
    "  " ++ ({ bold := true, color := some .yellow } : Style).apply styled "WARN" ++ "   " ++
      tickLabel tick ++ " " ++ description

/-- The section of notable events, which is left out if there are none. -/
def notableSection (styled : Bool) (entries : List Notable) : List String :=
  if entries.isEmpty then []
  else heading styled "Notable Events" :: entries.map (notableLine styled) ++ [""]

def eventLine (styled : Bool) (event : Event) : String :=
  "  " ++ ({ dimmed := true } : Style).apply styled (tickLabel event.tick) ++ " " ++
    (eventStyle event.kind).apply styled event.description

def eventSection (styled : Bool) (events : List Event) : List String :=
  let lines :=
    if events.isEmpty then ["  " ++ ({ dimmed := true } : Style).apply styled "(no events)"]
    else events.map (eventLine styled)
  heading styled "Event Log" :: "" :: lines ++ [""]

/-- The names of the set flags and the sub-mode. -/
def flagsText (flags : ControlFlags) : String :=
  let names := (flags.present.filter fun entry => entry.2 != .subModeField).map (·.1)
  " ".intercalate (names ++ ["sub=" ++ toString flags.subMode.toNat])

/-- The altitude, with its target as long as it has not been reached. -/
def altitudeText (styled : Bool) (altitude : Pursuit) : String :=
  let current := toString altitude.current.toInt
  if altitude.isSettled then ({ color := some .green } : Style).apply styled current
  else current ++ " -> " ++ toString altitude.target.toInt

/-- The mode, which is marked if the last division was refused. -/
def modeText (styled : Bool) (actor : Actor) : String :=
  if actor.hasFlag .divisionSafe then actor.mode.text
  else ({ color := some .red } : Style).apply styled actor.mode.text

def statusRow (styled : Bool) (actor : Actor) : List String :=
  [actor.name, modeText styled actor, flagsText actor.flags,
    toString actor.orientation.yaw.toInt, toString actor.orientation.roll.toInt,
    altitudeText styled actor.altitude, toString actor.derived.velocity.toInt,
    toString actor.derived.turnRate.toInt, toString actor.derived.bank.toInt,
    toString actor.pathLength.toNat ++ " B"]

def statusTable (styled : Bool) (actors : List Actor) : Table where
  header := ["Actor", "Mode", "Flags", "Yaw", "Roll", "Altitude", "Velocity", "Turn", "Bank", "Path"]
  rows := actors.map (statusRow styled)

/-- The opening lines: the name of the run and its totals. -/
def summary (styled : Bool) (scenario : String) (ran : Ran) : List String :=
  let aborted := (ran.reports.flatMap fun report => report.faults).length
  ["  " ++ ({ bold := true } : Style).apply styled "Run" ++ " '" ++ scenario ++ "' " ++
      ({ dimmed := true } : Style).apply styled
        ("(" ++ toString ran.reports.length ++ " ticks, " ++
          toString ran.engine.actors.length ++ " actors)"),
    "  " ++ toString ran.engine.log.size ++ " events logged, " ++ toString aborted ++
      " entity ticks aborted",
    ""]

def lines (styled verbose : Bool) (scenario : String) (ran : Ran) : List String :=
  let events := ran.engine.log.toList
  summary styled scenario ran ++
    (if verbose then eventSection styled events
      else notableSection styled (notables ran.reports events)) ++
    heading styled "Actor Status" :: "" :: (statusTable styled ran.engine.actors).lines ++ [""]

end Rotorcraft.Report
