import Rotorcraft.Angle
import Rotorcraft.ControlFlags
import Rotorcraft.Vec3

/-! # Engine settings and the shared reference frame -/

namespace Rotorcraft

/-- The thresholds unless others are set. -/
def defaultThresholds : Vector Int32 4 :=
  #v[0, 64, 256, 1024]

/-- The settings of an engine. -/
structure Config where
  /-- Latched codes are forwarded again every so many ticks; zero turns this off. -/
  periodicPeriod : UInt64 := 4
  /-- What pursuit offsets are divided by; zero makes every pursuit fault. -/
  pursuitDivisor : Int32 := 8
  /-- For each sub-mode, the least primary offset that is pursued. -/
  pursuitThresholds : Vector Int32 4 := defaultThresholds
  /-- The greatest change of altitude in a tick. -/
  attractionStep : Int32 := 16
  /-- The greatest change of heading in a tick of aiming. -/
  aimStep : Int32 := 32
  /-- How many events the log keeps; zero keeps all. -/
  maxEvents : UInt64 := 0
  /-- The parameter count sent with every forwarded code. -/
  eventParamCount : UInt8 := 1
deriving DecidableEq, Repr, Inhabited

/-- Why settings are refused. -/
inductive ConfigError where
  | negativeAttractionStep (step : Int32)
  | negativeAimStep (step : Int32)
  | negativeThreshold (threshold : Int32)
  /-- A reason that only a stage of the host gives. -/
  | other (reason : String)
deriving DecidableEq, Repr

def ConfigError.message (error : ConfigError) : String :=
  "invalid config: " ++ match error with
  | .negativeAttractionStep step =>
    "attraction_step must not be negative, got " ++ toString step.toInt
  | .negativeAimStep step => "aim_step must not be negative, got " ++ toString step.toInt
  | .negativeThreshold threshold =>
    "pursuit thresholds must not be negative, got " ++ toString threshold.toInt
  | .other reason => reason

namespace Config

/-- The first reason for which the settings are refused. -/
def problem? (config : Config) : Option ConfigError :=
  if config.attractionStep < 0 then some (.negativeAttractionStep config.attractionStep)
  else if config.aimStep < 0 then some (.negativeAimStep config.aimStep)
  else (config.pursuitThresholds.toList.find? (· < 0)).map .negativeThreshold

def validate (config : Config) : Except ConfigError Unit :=
  match config.problem? with
  | some error => .error error
  | none => .ok ()

end Config

/-- A sub-mode is one of four. -/
theorem ControlFlags.subMode_lt (flags : ControlFlags) : flags.subMode.toNat < 4 := by
  have masked : flags.bits.toNat &&& 12 ≤ 12 := Nat.and_le_right
  simp only [subMode, subModeField, UInt16.toNat_toUInt8, UInt16.toNat_shiftRight, UInt16.toNat_and]
  rw [show UInt16.toNat 12 = 12 from rfl, show UInt16.toNat 2 % 16 = 2 from rfl,
    Nat.shiftRight_eq_div_pow]
  omega

def Config.threshold (config : Config) (flags : ControlFlags) : Int32 :=
  config.pursuitThresholds.get ⟨flags.subMode.toNat, flags.subMode_lt⟩

/-- What every actor sees of the world during a tick. -/
structure ReferenceFrame where
  /-- Where a new flight is anchored. -/
  origin : Vec3 := {}
  primaryTarget : Vec3 := {}
  secondaryTarget : Vec3 := {}
  /-- The heading that banking is measured against. -/
  bearing : Angle := {}
deriving DecidableEq, Repr, Inhabited

end Rotorcraft
