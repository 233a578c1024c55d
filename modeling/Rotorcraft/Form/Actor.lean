import Rotorcraft.Actor
import Rotorcraft.ControlFlags.Text
import Rotorcraft.Form.Basic

/-! # JSON forms of an actor and its parts

Angles are reduced on reading, countdowns are taken as they are, and a control word is its text.
-/

namespace Rotorcraft.Form

instance : JsonForm Angle where
  write angle := write angle.toWord
  read? json := (read? json).map Angle.ofWord

instance : JsonForm EventCode where
  write code := write code.word
  read? json := (read? json).map EventCode.mk

instance : JsonForm StatusWord where
  write status := write status.word
  read? json := (read? json).map StatusWord.mk

instance : JsonForm Countdown where
  write countdown := write countdown.remaining
  read? json := (read? json).map Countdown.mk

instance : JsonForm ControlFlags where
  write flags := .text flags.text
  read? json := (read? json).bind ControlFlags.ofText?

instance : JsonForm Uuid where
  write uuid := .text uuid.text
  read? json := (read? json).bind Uuid.ofText?

instance : JsonForm ActorId where
  write id := write id.uuid
  read? json := (read? json).map ActorId.mk

instance : JsonForm TurretId where
  write id := write id.uuid
  read? json := (read? json).map TurretId.mk

instance : JsonForm Vec3 where
  write vector := .array [write vector.x, write vector.y, write vector.z]
  read?
    | .array [x, y, z] => do pure ⟨← read? x, ← read? y, ← read? z⟩
    | _ => none

instance : JsonForm Spin where
  write spin := .record [("yaw", write spin.yaw), ("roll", write spin.roll)]
  read? json := do
    match ← members? ["yaw", "roll"] false json with
    | [yaw, roll] => pure ⟨← required yaw, ← required roll⟩
    | _ => none

instance : JsonForm Orientation where
  write orientation := .record [("yaw", write orientation.yaw), ("roll", write orientation.roll)]
  read? json := do
    match ← members? ["yaw", "roll"] false json with
    | [yaw, roll] => pure ⟨← required yaw, ← required roll⟩
    | _ => none

instance : JsonForm Pursuit where
  write pursuit := .record [("current", write pursuit.current), ("target", write pursuit.target)]
  read? json := do
    match ← members? ["current", "target"] false json with
    | [current, target] => pure ⟨← required current, ← required target⟩
    | _ => none

instance : JsonForm Derived where
  write derived := .record [("anchor", write derived.anchor), ("velocity", write derived.velocity),
    ("turn_rate", write derived.turnRate), ("bank", write derived.bank)]
  read? json := do
    match ← members? ["anchor", "velocity", "turn_rate", "bank"] false json with
    | [anchor, velocity, turnRate, bank] =>
      pure ⟨← required anchor, ← required velocity, ← required turnRate, ← required bank⟩
    | _ => none

/-- A timer is given by its name, or by an object whose only member has that name and is null. -/
instance : JsonForm TimerName where
  write name := .text name.text
  read?
    | .string (some name) => TimerName.ofText? name
    | .object [(some name, .null)] => TimerName.ofText? name
    | _ => none

instance : JsonForm TimerSlot where
  write slot := .record [("timer", write slot.timer), ("event", write slot.event)]
  read? json := do
    match ← members? ["timer", "event"] false json with
    | [timer, event] => pure ⟨← required timer, ← required event⟩
    | _ => none

def readSlots? : Json → Option TimerBank
  | .array [fire, sweep, hover, alert] => do
    pure ⟨← read? fire, ← read? sweep, ← read? hover, ← read? alert⟩
  | _ => none

instance : JsonForm TimerBank where
  write bank := .record [("slots", write bank.slots)]
  read? json := do
    match ← members? ["slots"] false json with
    | [slots] => slots.bind readSlots?
    | _ => none

def actorMembers : List String :=
  ["id", "name", "position", "orientation", "spin", "flags", "status", "timers", "altitude",
    "component", "pending_event", "derived", "path_asset", "path", "path_len"]

instance : JsonForm Actor where
  write actor := .record [("id", write actor.id), ("name", write actor.name),
    ("position", write actor.position), ("orientation", write actor.orientation),
    ("spin", write actor.spin), ("flags", write actor.flags), ("status", write actor.status),
    ("timers", write actor.timers), ("altitude", write actor.altitude),
    ("component", write actor.turret), ("pending_event", write actor.pendingEvent),
    ("derived", write actor.derived), ("path_asset", write actor.pathAsset),
    ("path", write actor.path), ("path_len", write actor.pathLength)]
  read? json := do
    match ← members? actorMembers false json with
    | [id, name, position, orientation, spin, flags, status, timers, altitude, turret,
        pendingEvent, derived, pathAsset, path, pathLength] =>
      pure {
        id := ← required id
        name := ← required name
        position := ← required position
        orientation := ← required orientation
        spin := ← required spin
        flags := ← required flags
        status := ← required status
        timers := ← required timers
        altitude := ← required altitude
        turret := ← orElse none turret
        pendingEvent := ← orElse none pendingEvent
        derived := ← required derived
        pathAsset := ← orElse none pathAsset
        path := ← required path
        pathLength := ← required pathLength }
    | _ => none

end Rotorcraft.Form
