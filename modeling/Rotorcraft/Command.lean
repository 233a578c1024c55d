import Rotorcraft.Files
import Rotorcraft.Form.Scenario
import Rotorcraft.Json.Printer
import Rotorcraft.Json.Reader
import Rotorcraft.Report

/-! # Commands on scenario files -/

namespace Rotorcraft

/-- Why a command fails. -/
inductive CommandError where
  | cannotRead (path : String) (error : FileError)
  | invalidScenario (path : String)
  | scenario (error : ScenarioError)
  | directoryExists (name : String)
  | cannotMakeDirectory (error : FileError)
  | cannotWrite (file : String) (error : FileError)
  /-- The program stops where it stands, as no list can hold the reports of so many ticks. -/
  | capacityOverflow
deriving DecidableEq

def CommandError.message : CommandError → String
  | .cannotRead path error => "cannot read " ++ path ++ ": " ++ error.message
  | .invalidScenario path => "invalid scenario " ++ path
  | .scenario error => error.message
  | .directoryExists name => "directory '" ++ name ++ "' already exists"
  | .cannotMakeDirectory error => "cannot create directory: " ++ error.message
  | .cannotWrite file error => "cannot write " ++ file ++ ": " ++ error.message
  | .capacityOverflow => "capacity overflow"

namespace Command

/-- Lines as text, each with its line end. -/
def text (lines : List String) : String :=
  String.join (lines.map fun line => line ++ "\n")

def scenarioOf? (text : String) : Option Scenario :=
  (Json.parse? text).bind read?

def loadScenario (files : Files) (path : String) : Except CommandError Scenario :=
  match files.readText path with
  | .error error => .error (.cannotRead path error)
  | .ok text =>
    match scenarioOf? text with
    | some scenario => .ok scenario
    | none => .error (.invalidScenario path)

def assetPath (path key : String) : String :=
  Path.join (Path.join (Path.directoryOf path) "assets") key

/-- A host that takes assets from the directory beside the scenario at `path`. -/
def assetHost (files : Files) (path : String) : Host where
  asset? key := (files.read (assetPath path key)).toOption

/-- Reads a scenario file and sets up its engine. -/
def prepare (files : Files) (ids : IdSupply) (path : String) :
    Except CommandError (Scenario × Engine) := do
  let scenario ← loadScenario files path
  match scenario.build (assetHost files path) ids with
  | .ok engine => .ok (scenario, engine)
  | .error error => .error (.scenario error)

/-- The keys of the path assets that the actors of a scenario name. -/
def assetKeys (scenario : Scenario) : List String :=
  scenario.actors.filterMap fun actor => actor.params.pathAsset

def missingAssets (files : Files) (path : String) (scenario : Scenario) : List String :=
  (assetKeys scenario).filter fun key => !files.isFile (assetPath path key)

def check (files : Files) (ids : IdSupply) (styled : Bool) (path : String) :
    Except CommandError String := do
  let (scenario, engine) ← prepare files ids path
  let warn := ({ bold := true, color := some .yellow } : Terminal.Style).apply styled "warn"
  let warnings := (missingAssets files path scenario).map fun key =>
    "  " ++ warn ++ " path asset '" ++ key ++ "' not found"
  .ok (text (["  All checks passed for '" ++ scenario.name ++ "'.",
    "  " ++ toString engine.actors.length ++ " actors, " ++ toString engine.turrets.size ++
      " turrets"] ++ warnings))

/-- How a run is reported. -/
structure RunOptions where
  ticks : Nat := 16
  /-- Lists all events. -/
  verbose : Bool := false
  /-- Shows the final actors as JSON instead of a report. -/
  json : Bool := false
  styled : Bool := false
deriving DecidableEq, Repr

def run (files : Files) (ids : IdSupply) (options : RunOptions) (path : String) :
    Except CommandError String := do
  let (scenario, engine) ← prepare files ids path
  match engine.run? options.ticks with
  | none => .error .capacityOverflow
  | some ran =>
    if options.json then .ok (text [(write ran.engine.actors).indented])
    else .ok (text (Report.lines options.styled options.verbose scenario.name ran))

end Command
end Rotorcraft
