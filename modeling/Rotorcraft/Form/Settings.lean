import Rotorcraft.Config
import Rotorcraft.Form.Actor
import Rotorcraft.Spawn
import Rotorcraft.Turret

/-! # JSON forms of what a host supplies

Settings, reference frames and spawn parameters may leave out any member, which then has its
default; given as an array they may be short. A turret has to name its aim.
-/

namespace Rotorcraft.Form

instance : JsonForm Turret where
  write turret := .record [("aim", write turret.aim)]
  read? json := do
    match ← members? ["aim"] false json with
    | [aim] => pure ⟨← required aim⟩
    | _ => none

instance : JsonForm ReferenceFrame where
  write frame := .record [("origin", write frame.origin),
    ("primary_target", write frame.primaryTarget),
    ("secondary_target", write frame.secondaryTarget), ("bearing", write frame.bearing)]
  read? json := do
    match ← members? ["origin", "primary_target", "secondary_target", "bearing"] true json with
    | [origin, primaryTarget, secondaryTarget, bearing] =>
      pure ⟨← orElse {} origin, ← orElse {} primaryTarget, ← orElse {} secondaryTarget,
        ← orElse {} bearing⟩
    | _ => none

/-- A threshold for each of the four sub-modes. -/
instance : JsonForm (Vector Int32 4) where
  write thresholds := write thresholds.toList
  read?
    | .array [a, b, c, d] => do pure #v[← read? a, ← read? b, ← read? c, ← read? d]
    | _ => none

def configMembers : List String :=
  ["periodic_period", "pursuit_divisor", "pursuit_thresholds", "attraction_step", "aim_step",
    "max_events", "event_param_count"]

instance : JsonForm Config where
  write config := .record [("periodic_period", write config.periodicPeriod),
    ("pursuit_divisor", write config.pursuitDivisor),
    ("pursuit_thresholds", write config.pursuitThresholds),
    ("attraction_step", write config.attractionStep), ("aim_step", write config.aimStep),
    ("max_events", write config.maxEvents), ("event_param_count", write config.eventParamCount)]
  read? json := do
    match ← members? configMembers true json with
    | [periodicPeriod, pursuitDivisor, pursuitThresholds, attractionStep, aimStep, maxEvents,
        eventParamCount] =>
      let standard : Config := {}
      pure {
        periodicPeriod := ← orElse standard.periodicPeriod periodicPeriod
        pursuitDivisor := ← orElse standard.pursuitDivisor pursuitDivisor
        pursuitThresholds := ← orElse standard.pursuitThresholds pursuitThresholds
        attractionStep := ← orElse standard.attractionStep attractionStep
        aimStep := ← orElse standard.aimStep aimStep
        maxEvents := ← orElse standard.maxEvents maxEvents
        eventParamCount := ← orElse standard.eventParamCount eventParamCount }
    | _ => none

/-- Adds one member of an object to a timer map; a repeated name replaces the earlier value. -/
def readTimerEntry? {α : Type} [JsonForm α] (map : TimerMap α) (member : Option String × Json) :
    Option (TimerMap α) := do
  let name ← TimerName.ofText? (← member.1)
  pure (map.insert name (← read? member.2))

instance {α : Type} [JsonForm α] : JsonForm (TimerMap α) where
  write map := .record (map.toList.map fun entry => (entry.1.text, write entry.2))
  read?
    | .object members => members.foldlM readTimerEntry? {}
    | _ => none

def spawnMembers : List String :=
  ["name", "mode", "sub_mode", "flags", "position", "yaw", "roll", "spin", "altitude", "timers",
    "events", "path_asset"]

def writeSpawnMembers (params : SpawnParams) : List (String × Json) :=
  [("name", write params.name), ("mode", write params.mode), ("sub_mode", write params.subMode),
    ("flags", write params.flags), ("position", write params.position), ("yaw", write params.yaw),
    ("roll", write params.roll), ("spin", write params.spin), ("altitude", write params.altitude),
    ("timers", write params.timers), ("events", write params.events),
    ("path_asset", write params.pathAsset)]

def readSpawnMembers? : List (Option Json) → Option SpawnParams
  | [name, mode, subMode, flags, position, yaw, roll, spin, altitude, timers, events,
      pathAsset] => do
    pure {
      name := ← orElse "" name
      mode := ← orElse 0 mode
      subMode := ← orElse 0 subMode
      flags := ← orElse {} flags
      position := ← orElse {} position
      yaw := ← orElse 0 yaw
      roll := ← orElse 0 roll
      spin := ← orElse {} spin
      altitude := ← orElse {} altitude
      timers := ← orElse {} timers
      events := ← orElse {} events
      pathAsset := ← orElse none pathAsset }
  | _ => none

instance : JsonForm SpawnParams where
  write params := .record (writeSpawnMembers params)
  read? json := (members? spawnMembers true json).bind readSpawnMembers?

end Rotorcraft.Form
