import Rotorcraft.Form.Settings
import Rotorcraft.Proofs.Forms
import Rotorcraft.Proofs.Layout
import Rotorcraft.Proofs.Spelling

/-! # Texts of records read back

Actors, spawn parameters, settings and reference frames are written as JSON texts and read again
without loss, whatever they hold. So a text that is accepted and then written anew still means the
same.
-/

namespace Rotorcraft
namespace Form

open Faithful

theorem ofWord_toWord (angle : Angle) : Angle.ofWord angle.toWord = angle := by
  obtain ⟨units⟩ := angle
  have below := units.isLt
  have word : (Angle.toWord ⟨units⟩).toNat = units.val := by
    rw [Angle.toWord, UInt16.toNat_ofNat']
    exact Nat.mod_eq_of_lt (by omega)
  have reduced : ((units.val : Int) % 4096).toNat % 4096 = units.val := by omega
  rw [Angle.ofWord, word]
  exact congrArg Angle.mk (Fin.ext reduced)

instance : Faithful Angle where
  read?_write angle := by
    show (read? (write angle.toWord)).map Angle.ofWord = _
    rw [read?_write, Option.map_some, ofWord_toWord]

instance : Faithful EventCode where
  read?_write code := congrArg (Option.map EventCode.mk) (read?_write code.word)

instance : Faithful StatusWord where
  read?_write status := congrArg (Option.map StatusWord.mk) (read?_write status.word)

instance : Faithful Countdown where
  read?_write countdown := congrArg (Option.map Countdown.mk) (read?_write countdown.remaining)

instance : Faithful ControlFlags where
  read?_write := ControlFlags.ofText?_text

instance : Faithful Uuid where
  read?_write := Uuid.ofText?_text

instance : Faithful ActorId where
  read?_write id := congrArg (Option.map ActorId.mk) (read?_write id.uuid)

instance : Faithful TurretId where
  read?_write id := congrArg (Option.map TurretId.mk) (read?_write id.uuid)

instance : Faithful (Option String) := faithful_option nofun
instance : Faithful (Option EventCode) := faithful_option nofun
instance : Faithful (Option TurretId) := faithful_option nofun

instance : Faithful Vec3 where
  read?_write vector := by
    show (do pure ⟨← read? (write vector.x), ← read? (write vector.y), ← read? (write vector.z)⟩ :
      Option Vec3) = some vector
    simp only [read?_write]
    rfl

instance : Faithful Spin where
  read?_write spin := by
    apply read_record ["yaw", "roll"] [write spin.yaw, write spin.roll] false (by decide) rfl
    simp

instance : Faithful Orientation where
  read?_write orientation := by
    apply read_record ["yaw", "roll"] [write orientation.yaw, write orientation.roll] false (by decide) rfl
    simp

instance : Faithful Pursuit where
  read?_write pursuit := by
    apply read_record ["current", "target"] [write pursuit.current, write pursuit.target] false
      (by decide) rfl
    simp

instance : Faithful Derived where
  read?_write derived := by
    apply read_record ["anchor", "velocity", "turn_rate", "bank"] [write derived.anchor,
      write derived.velocity, write derived.turnRate, write derived.bank] false (by decide) rfl
    simp

theorem ofText?_text (name : TimerName) : TimerName.ofText? name.text = some name := by
  cases name <;> decide

instance : Faithful TimerSlot where
  read?_write slot := by
    apply read_record ["timer", "event"] [write slot.timer, write slot.event] false (by decide) rfl
    simp

instance : Faithful TimerBank where
  read?_write bank := by
    apply read_record ["slots"] [write bank.slots] false (by decide) rfl
    show (do pure ⟨← read? (write bank.fire), ← read? (write bank.sweep), ← read? (write bank.hover),
      ← read? (write bank.alert)⟩ : Option TimerBank) = some bank
    simp only [read?_write]
    rfl

section TimerMap

variable {α : Type}

/-- A timer map is made up of its entries. -/
theorem foldl_insert_toList (map : TimerMap α) :
    map.toList.foldl (fun map entry => map.insert entry.1 entry.2) {} = map := by
  obtain ⟨fire, sweep, hover, alert⟩ := map
  cases fire <;> cases sweep <;> cases hover <;> cases alert <;> rfl

variable [JsonForm α] [Faithful α]

/-- The members written for entries are read as insertions of the entries. -/
theorem foldlM_readTimerEntry? (entries : List (TimerName × α)) (map : TimerMap α) :
    (entries.map fun entry => (some entry.1.text, write entry.2)).foldlM readTimerEntry? map =
      some (entries.foldl (fun map entry => map.insert entry.1 entry.2) map) := by
  induction entries generalizing map with
  | nil => rfl
  | cons entry entries ih =>
    have read : readTimerEntry? map (some entry.1.text, write entry.2) =
        some (map.insert entry.1 entry.2) := by
      show ((TimerName.ofText? entry.1.text).bind fun name =>
        (read? (write entry.2)).bind fun value => some (map.insert name value)) = _
      rw [ofText?_text, read?_write]
      rfl
    rw [List.map_cons, List.foldlM_cons, read]
    exact ih _

instance : Faithful (TimerMap α) where
  read?_write map := by
    have read := foldlM_readTimerEntry? map.toList {}
    rw [foldl_insert_toList] at read
    show ((map.toList.map fun entry => (entry.1.text, write entry.2)).map fun member =>
      (some member.1, member.2)).foldlM readTimerEntry? {} = some map
    rw [List.map_map]
    exact read

end TimerMap

instance : Faithful Actor where
  read?_write actor := by
    apply read_record actorMembers [write actor.id, write actor.name, write actor.position,
      write actor.orientation, write actor.spin, write actor.flags, write actor.status,
      write actor.timers, write actor.altitude, write actor.turret, write actor.pendingEvent,
      write actor.derived, write actor.pathAsset, write actor.path, write actor.pathLength] false
      (by decide) rfl
    simp

instance : Faithful SpawnParams where
  read?_write params := by
    apply read_record spawnMembers [write params.name, write params.mode, write params.subMode,
      write params.flags, write params.position, write params.yaw, write params.roll,
      write params.spin, write params.altitude, write params.timers, write params.events,
      write params.pathAsset] true (by decide) rfl
    simp [readSpawnMembers?]

/-- Four thresholds are read from their list. -/
instance : Faithful (Vector Int32 4) where
  read?_write thresholds := by
    obtain ⟨⟨list⟩, size⟩ := thresholds
    match list, size with
    | [a, b, c, d], _ =>
      show (do pure #v[← read? (write a), ← read? (write b), ← read? (write c), ← read? (write d)] :
        Option (Vector Int32 4)) = _
      simp only [read?_write]
      rfl

instance : Faithful Config where
  read?_write config := by
    apply read_record configMembers [write config.periodicPeriod, write config.pursuitDivisor,
      write config.pursuitThresholds, write config.attractionStep, write config.aimStep,
      write config.maxEvents, write config.eventParamCount] true (by decide) rfl
    simp

instance : Faithful ReferenceFrame where
  read?_write frame := by
    apply read_record ["origin", "primary_target", "secondary_target", "bearing"] [write frame.origin,
      write frame.primaryTarget, write frame.secondaryTarget, write frame.bearing] true (by decide) rfl
    simp

end Form

/-- The value that a JSON text describes. -/
def readText? {α : Type} [JsonForm α] (text : String) : Option α :=
  (Json.parse? text).bind read?

/-- The values of a type survive being written as texts. -/
structure RoundTrips (α : Type) [JsonForm α] : Prop where
  /-- The compact text of a value is read as the value. -/
  compact : ∀ value : α, readText? (write value).compact = some value
  /-- The indented text of a value is read as the value. -/
  indented : ∀ value : α, readText? (write value).indented = some value
  /-- An accepted text may be written anew, in either layout, before it is read. -/
  rewritten : ∀ (text : String) (value : α), readText? text = some value →
    readText? (write value).compact = (readText? text : Option α) ∧
      readText? (write value).indented = (readText? text : Option α)

theorem RoundTrips.of_faithful (α : Type) [JsonForm α] [Faithful α] : RoundTrips α := by
  have compact : ∀ value : α, readText? (write value).compact = some value := by
    intro value
    rw [readText?, Json.parse?_compact]
    exact Faithful.read?_write value
  have indented : ∀ value : α, readText? (write value).indented = some value := by
    intro value
    rw [readText?, Json.parse?_indented]
    exact Faithful.read?_write value
  refine ⟨compact, indented, ?_⟩
  intro text value accepted
  rw [accepted]
  exact ⟨compact value, indented value⟩

/-- Every actor, every set of spawn parameters, all settings and every reference frame are read back
from their texts as they were written. -/
theorem records_round_trip : RoundTrips Actor ∧ RoundTrips SpawnParams ∧ RoundTrips Config ∧
    RoundTrips ReferenceFrame := by
  refine ⟨?_, ?_, ?_, ?_⟩
  · exact .of_faithful Actor
  · exact .of_faithful SpawnParams
  · exact .of_faithful Config
  · exact .of_faithful ReferenceFrame

/-- An accepted text need not be a written one. -/
example : (readText? "[[1, 2, 3]]" : Option ReferenceFrame) = some { origin := ⟨1, 2, 3⟩ } := by decide

end Rotorcraft
