import Rotorcraft.Stage.Dispatch
import Rotorcraft.Stage.Hosted
import Rotorcraft.Stage.Motion
import Rotorcraft.Stage.Script
import Rotorcraft.Stage.Timers
import Rotorcraft.Stage.Transfer

/-! # Pipelines of stages

An actor goes through the stages in order, up to the first one that fails. The stages keep only
counters, which no stage reads; what a host's own stages remember, the host keeps.
-/

namespace Rotorcraft

/-- A stage with what it has counted. -/
inductive Stage where
  | timers (counters : TimerCounters)
  | motion (counters : MotionCounters)
  | dispatch (counters : DispatchCounters)
  | transfer (counters : TransferCounters)
  | scripted (script : Script)
  | hosted (stage : HostStage)

namespace Stage

/-- The standard pipeline, with nothing counted. -/
def standard : List Stage :=
  [.timers {}, .motion {}, .dispatch {}, .transfer {}]

def name : Stage → String
  | .timers _ => "timers"
  | .motion _ => "motion"
  | .dispatch _ => "dispatch"
  | .transfer _ => "transfer"
  | .scripted _ => "host"
  | .hosted stage => stage.name

/-- Takes an actor through a stage. -/
def run (frame : Frame) (stage : Stage) (actor : Actor) : Stage × Pass :=
  match stage with
  | .timers counters =>
    let (counters, pass) := TimerStage.run frame counters actor
    (.timers counters, pass)
  | .motion counters =>
    let (counters, pass) := MotionStage.run frame counters actor
    (.motion counters, pass)
  | .dispatch counters =>
    let (counters, pass) := DispatchStage.run frame counters actor
    (.dispatch counters, pass)
  | .transfer counters =>
    let (counters, pass) := TransferStage.run frame counters actor
    (.transfer counters, pass)
  | .scripted script => (.scripted script, script.run frame actor)
  | .hosted stage => (.hosted stage, stage.run frame actor)

def timerCounters? : Stage → Option TimerCounters
  | .timers counters => some counters
  | _ => none

def motionCounters? : Stage → Option MotionCounters
  | .motion counters => some counters
  | _ => none

def dispatchCounters? : Stage → Option DispatchCounters
  | .dispatch counters => some counters
  | _ => none

def transferCounters? : Stage → Option TransferCounters
  | .transfer counters => some counters
  | _ => none

def sameKind : Stage → Stage → Bool
  | .timers _, .timers _ => true
  | .motion _, .motion _ => true
  | .dispatch _, .dispatch _ => true
  | .transfer _, .transfer _ => true
  | .scripted _, .scripted _ => true
  | .hosted first, .hosted second => first.name == second.name
  | _, _ => false

end Stage

namespace Pipeline

/-- Takes an actor through stages, up to the first one that fails. -/
def run (frame : Frame) : List Stage → Actor → List Stage × Pass
  | [], actor => ([], .silent actor)
  | stage :: rest, actor =>
    let (stage, pass) := stage.run frame actor
    match pass.error with
    | some _ => (stage :: rest, pass)
    | none =>
      let (rest, next) := run frame rest pass.actor
      (stage :: rest, pass.followedBy next)

/-- The event that records why the tick of an actor was cut short. -/
def abortEvent (frame : Frame) (actor : Actor) (error : EngineError) : Event :=
  let kind := match error with
    | .division fault => .divisionFault actor.id fault
    | _ => .custom "stage_error" [actor.id]
  frame.event kind (actor.name ++ ": " ++ error.message)

/-- Adds to a pass that failed the event that says so. -/
def logAbort (frame : Frame) (pass : Pass) : Pass :=
  match pass.error with
  | some error => { pass with events := pass.events ++ [abortEvent frame pass.actor error] }
  | none => pass

/-- Takes actors through stages, one after the other, each with the frame that it sees. -/
def runAll : List Stage → List (Frame × Actor) → List Stage × List Pass
  | stages, [] => (stages, [])
  | stages, (frame, actor) :: rest =>
    let (stages, pass) := run frame stages actor
    let (stages, passes) := runAll stages rest
    (stages, logAbort frame pass :: passes)

end Pipeline
end Rotorcraft
