import Rotorcraft.Command
import Rotorcraft.Files.Tree

/-! # Making sample scenarios

A sample scenario is drawn from a seed. The same seed gives the same scenario, and every actor of it
can be spawned.
-/

namespace Rotorcraft

/-- A source of pseudo-random numbers. -/
structure RandomSource where
  state : UInt64
deriving DecidableEq, Repr

namespace RandomSource

/-- Draws a number, by mixing a counter that advances with an odd stride. -/
def next : StateM RandomSource UInt64 := do
  let state := (← get).state + 0x9E3779B97F4A7C15
  set (RandomSource.mk state)
  let mixed := (state ^^^ (state >>> 30)) * 0xBF58476D1CE4E5B9
  let mixed := (mixed ^^^ (mixed >>> 27)) * 0x94D049BB133111EB
  pure (mixed ^^^ (mixed >>> 31))

def between (low high : Int) : StateM RandomSource Int := do
  let number ← next
  pure (low + number.toNat % (high - low + 1))

def coin : StateM RandomSource Bool := do
  pure ((← between 0 1) == 1)

end RandomSource

namespace Sample

open RandomSource

/-- The key of the path asset that the sample actors share. -/
def routeAsset : String := "route.bin"

def point (extent : Int) : StateM RandomSource Vec3 := do
  let x ← between (-extent) extent
  let y ← between (-extent) extent
  let z ← between (-extent) extent
  pure ⟨.ofInt x, .ofInt y, .ofInt z⟩

def reference : StateM RandomSource ReferenceFrame := do
  let origin ← point 512
  let primaryTarget ← point 2048
  let secondaryTarget ← point 2048
  let bearing ← between 0 4095
  pure ⟨origin, primaryTarget, secondaryTarget, .ofInt bearing⟩

def actorName (index : Nat) : String :=
  "Rotor-" ++ (if index < 10 then "0" else "") ++ toString index

def actor (index : Nat) : StateM RandomSource ScenarioActor := do
  let mode ← between 0 4
  let subMode ← between 0 3
  let fire ← between 1 12
  let sweep ← between 0 20
  let attracted ← coin
  let reloads ← coin
  let position ← point 1024
  let yaw ← between 0 4095
  let roll ← between 0 4095
  let spinYaw ← between (-32) 32
  let spinRoll ← between 64 256
  let target ← between 100 999
  let armed ← coin
  let aim ← between 0 4095
  let flags : ControlFlags := if attracted then .attractionActive else {}
  let params : SpawnParams := {
    name := actorName index
    mode := UInt8.ofNat mode.toNat
    subMode := UInt8.ofNat subMode.toNat
    flags := if reloads then flags.insert .reloadPath else flags
    position := position
    yaw := UInt16.ofNat yaw.toNat
    roll := UInt16.ofNat roll.toNat
    spin := ⟨.ofInt spinYaw, .ofInt spinRoll⟩
    altitude := ⟨0, .ofInt target⟩
    timers := { fire := some (.ofInt fire), sweep := some (.ofInt sweep) }
    pathAsset := if reloads then some routeAsset else none }
  pure ⟨params, if armed then some ⟨.ofInt aim⟩ else none⟩

def scenario (name : String) (count : Nat) : StateM RandomSource Scenario := do
  let reference ← reference
  let actors ← (List.range count).mapM actor
  pure { name := name, reference := reference, actors := actors }

def within (low high value : Int) : Bool :=
  low ≤ value && value ≤ high

def isDrawnPoint (extent : Int) (point : Vec3) : Bool :=
  [point.x, point.y, point.z].all fun part => within (-extent) extent part.toInt

def isDrawnReference (reference : ReferenceFrame) : Bool :=
  isDrawnPoint 512 reference.origin && isDrawnPoint 2048 reference.primaryTarget &&
    isDrawnPoint 2048 reference.secondaryTarget

def isDrawnTimer (low high : Int) (ticks : Option Int16) : Bool :=
  (ticks.map fun ticks => within low high ticks.toInt) == some true

/-- Whether an actor lies in the ranges that are drawn from. -/
def isDrawn (actor : ScenarioActor) : Bool :=
  let params := actor.params
  params.mode ≤ 4 && params.subMode ≤ 3 &&
    isDrawnTimer 1 12 params.timers.fire && isDrawnTimer 0 20 params.timers.sweep &&
    isDrawnPoint 1024 params.position && params.yaw < 4096 && params.roll < 4096 &&
    within (-32) 32 params.spin.yaw.toInt && within 64 256 params.spin.roll.toInt &&
    params.altitude.current == 0 && within 100 999 params.altitude.target.toInt &&
    params.pathAsset == if params.flags.intersects .reloadPath then some routeAsset else none

/-- Draws the bytes of a path. -/
def route : StateM RandomSource (List UInt8) :=
  (List.replicate 10 ()).mapM fun _ => do
    pure (UInt8.ofNat (← between 0 255).toNat)

end Sample

namespace Command

def initLines (name : String) (count seed : Nat) : List String :=
  ["Created scenario '" ++ name ++ "' in " ++ name ++ "/",
    "  scenario.json       " ++ toString count ++ " actors (seed " ++ toString seed ++ ")",
    "  assets/" ++ Sample.routeAsset ++ "    shared waypoint path",
    "",
    "Get started:",
    "  cd " ++ name,
    "  rw check       # Validate the scenario",
    "  rw run -v      # Run 16 ticks and show every event"]

/-- Makes a sample scenario in a directory that must not exist yet; gives what to write and what to
print afterwards. -/
def init (files : Files) (name : String) (count seed : Nat) :
    Except CommandError (WritePlan × String) :=
  if files.isPresent name then .error (.directoryExists name)
  else
    let (scenario, source) := (Sample.scenario name count).run ⟨UInt64.ofNat seed⟩
    let (route, _) := Sample.route.run source
    let assets := Path.join name "assets"
    let plan : WritePlan := {
      directory := assets
      files := [
        (Path.join name "scenario.json", "scenario.json",
          (write scenario).indented.toUTF8.toList),
        (Path.join assets Sample.routeAsset, Sample.routeAsset, CountedBuffer.wrap route)] }
    .ok (plan, text (initLines name count seed))

end Command

namespace WritePlan

/-- Writes the files of a plan one by one. -/
def writeFiles (tree : FileTree) :
    List (String × String × List UInt8) → Except CommandError FileTree
  | [] => .ok tree
  | (path, label, bytes) :: rest =>
    match tree.write path bytes with
    | .error error => .error (.cannotWrite label error)
    | .ok tree => writeFiles tree rest

/-- Makes the directory and the files of a plan. -/
def applyTo (plan : WritePlan) (tree : FileTree) : Except CommandError FileTree :=
  match tree.makeDirectories plan.directory with
  | .error error => .error (.cannotMakeDirectory error)
  | .ok tree => writeFiles tree plan.files

end WritePlan
end Rotorcraft
