import Rotorcraft.Actor
import Rotorcraft.CountedBuffer
import Rotorcraft.FixedPoint
import Rotorcraft.Text.Blank

/-! # Spawning actors

An actor is made from parameters that are checked first: whatever is accepted is stored in the
record without loss.
-/

namespace Rotorcraft

/-- An assignment of values to some of the timers. -/
structure TimerMap (α : Type) where
  fire : Option α := none
  sweep : Option α := none
  hover : Option α := none
  alert : Option α := none
deriving DecidableEq, Repr, Inhabited

namespace TimerMap

variable {α : Type}

def get? (map : TimerMap α) : TimerName → Option α
  | .fire => map.fire
  | .sweep => map.sweep
  | .hover => map.hover
  | .alert => map.alert

def insert (map : TimerMap α) (name : TimerName) (value : α) : TimerMap α :=
  match name with
  | .fire => { map with fire := some value }
  | .sweep => { map with sweep := some value }
  | .hover => { map with hover := some value }
  | .alert => { map with alert := some value }

def toList (map : TimerMap α) : List (TimerName × α) :=
  TimerName.all.filterMap fun name => (map.get? name).map fun value => (name, value)

end TimerMap

/-- What is needed to bring an actor into the simulation. -/
structure SpawnParams where
  name : String := ""
  mode : UInt8 := 0
  subMode : UInt8 := 0
  /-- The initial control word, apart from its sub-mode field. -/
  flags : ControlFlags := {}
  position : Vec3 := {}
  yaw : UInt16 := 0
  roll : UInt16 := 0
  spin : Spin := {}
  altitude : Pursuit := {}
  /-- The timers that start armed. -/
  timers : TimerMap Int16 := {}
  /-- The timers bound to other codes than their defaults. -/
  events : TimerMap UInt16 := {}
  pathAsset : Option String := none
deriving DecidableEq, Inhabited

/-- Why an actor is not made. Parameters are refused for the first four reasons only; the others a stage of
the host may give. -/
inductive SpawnError where
  | blankName
  | modeTooLarge (name : String) (mode : UInt8)
  | subModeTooLarge (name : String) (subMode : UInt8)
  | negativeTimer (name : String) (timer : TimerName) (ticks : Int16)
  | other (reason : String)
  | division (fault : DivisionFault)
  | copy (error : CopyError)
deriving DecidableEq

def SpawnError.message : SpawnError → String
  | .blankName => "validation error: spawn name must not be empty"
  | .modeTooLarge name mode =>
    "validation error: " ++ name ++ ": mode selector " ++ toString mode.toNat ++ " does not fit in 3 bits"
  | .subModeTooLarge name subMode =>
    "validation error: " ++ name ++ ": sub-mode " ++ toString subMode.toNat ++ " does not fit in 2 bits"
  | .negativeTimer name timer ticks =>
    "validation error: " ++ name ++ ": timer " ++ timer.text ++ " seeded with negative value " ++
      toString ticks.toInt
  | .other reason => "validation error: " ++ reason
  | .division fault => fault.message
  | .copy error => error.message

namespace SpawnParams

def withFlags (params : SpawnParams) (flags : ControlFlags) : SpawnParams :=
  { params with flags := params.flags.insert flags }

def withTimer (params : SpawnParams) (timer : TimerName) (ticks : Int16) : SpawnParams :=
  { params with timers := params.timers.insert timer ticks }

/-- The first reason for which the parameters are refused. -/
def problem? (params : SpawnParams) : Option SpawnError :=
  if (Text.trim params.name.toList).isEmpty then some .blankName
  else if 7 < params.mode then some (.modeTooLarge params.name params.mode)
  else if 3 < params.subMode then some (.subModeTooLarge params.name params.subMode)
  else (params.timers.toList.find? fun entry => entry.2 < 0).map fun entry =>
    .negativeTimer params.name entry.1 entry.2

/-- Refuses parameters that no record could carry. -/
def validate (params : SpawnParams) : Except SpawnError Unit :=
  match params.problem? with
  | some error => .error error
  | none => .ok ()

def timerBank (params : SpawnParams) : TimerBank :=
  let armed := params.timers.toList.foldl (fun bank (name, ticks) => bank.arm name ticks) {}
  params.events.toList.foldl (fun bank (name, code) => bank.bind name ⟨code⟩) armed

def toActor (params : SpawnParams) (id : ActorId) : Actor where
  id := id
  name := params.name
  position := params.position
  orientation := ⟨.ofWord params.yaw, .ofWord params.roll⟩
  spin := params.spin
  flags := params.flags.setSubMode params.subMode
  status := ({} : StatusWord).setSelector (Mode.ofSelector params.mode).selector
  timers := params.timerBank
  altitude := params.altitude
  pathAsset := params.pathAsset

end SpawnParams

def Actor.spawn (id : ActorId) (params : SpawnParams) : Except SpawnError Actor :=
  params.validate.map fun _ => params.toActor id

end Rotorcraft
