import Rotorcraft.Spawn
import Rotorcraft.Proofs.ControlWord
import Rotorcraft.Proofs.Countdown

/-! # What spawn parameters are accepted, and what becomes of them

The timers of a new actor are written one after the other; read back by name, each of them holds the
ticks and the code that the parameters give it. Of the parameters that are accepted, nothing is lost
on the way into the record.
-/

namespace Rotorcraft

theorem TimerBank.slot_setSlot (bank : TimerBank) (name timer : TimerName) (slot : TimerSlot) :
    (bank.setSlot name slot).slot timer = if timer = name then slot else bank.slot timer := by
  cases name <;> cases timer <;> rfl

theorem TimerName.mem_all (timer : TimerName) : timer ∈ all := by
  cases timer <;> decide

namespace TimerMap

variable {α : Type}

/-- Writes to different slots, each made from its old contents, do not disturb each other. -/
private theorem slot_foldl_names (map : TimerMap α) (write : TimerSlot → α → TimerSlot)
    (timer : TimerName) {names : List TimerName} (distinct : names.Nodup) (bank : TimerBank) :
    ((names.filterMap fun name => (map.get? name).map fun value => (name, value)).foldl
        (fun bank entry => bank.setSlot entry.1 (write (bank.slot entry.1) entry.2)) bank).slot timer =
      if timer ∈ names then ((map.get? timer).map (write (bank.slot timer))).getD (bank.slot timer)
      else bank.slot timer := by
  induction names generalizing bank with
  | nil => rfl
  | cons name rest ih =>
    obtain ⟨absent, others⟩ := List.nodup_cons.mp distinct
    cases value : map.get? name with
    | none =>
      simp only [List.filterMap_cons, value, Option.map_none, ih others, List.mem_cons]
      by_cases same : timer = name
      · subst same
        simp [absent, value]
      · simp [same]
    | some given =>
      simp only [List.filterMap_cons, value, Option.map_some, List.foldl_cons, ih others,
        TimerBank.slot_setSlot, List.mem_cons]
      by_cases same : timer = name
      · subst same
        simp [absent, value]
      · simp [same]

/-- The bank after a map is written into it, read back by name. -/
theorem slot_foldl (map : TimerMap α) (write : TimerSlot → α → TimerSlot) {bank : TimerBank}
    {timer : TimerName} {slot : TimerSlot} (before : bank.slot timer = slot) :
    (map.toList.foldl
        (fun bank entry => bank.setSlot entry.1 (write (bank.slot entry.1) entry.2)) bank).slot timer =
      ((map.get? timer).map (write slot)).getD slot := by
  rw [toList, slot_foldl_names map write timer (by decide), if_pos timer.mem_all, before]

theorem mem_toList {map : TimerMap α} {timer : TimerName} {value : α}
    (given : map.get? timer = some value) : (timer, value) ∈ map.toList :=
  List.mem_filterMap.mpr ⟨timer, timer.mem_all, by simp [given]⟩

end TimerMap

namespace SpawnParams

variable (params : SpawnParams)

def ticks (timer : TimerName) : Int16 :=
  (params.timers.get? timer).getD 0

def code (timer : TimerName) : EventCode :=
  ((params.events.get? timer).map EventCode.mk).getD timer.defaultEvent

/-- Every timer of the new actor has the ticks and the code that the parameters give. -/
theorem slot_timerBank (timer : TimerName) :
    params.timerBank.slot timer = ⟨.armed (params.ticks timer), params.code timer⟩ := by
  have fresh : ({} : TimerBank).slot timer = ⟨.armed 0, timer.defaultEvent⟩ := by cases timer <;> rfl
  have armed := params.timers.slot_foldl (fun slot ticks => { slot with timer := .armed ticks }) fresh
  refine (params.events.slot_foldl (fun slot code => { slot with event := ⟨code⟩ }) armed).trans ?_
  simp only [ticks, code]
  cases params.timers.get? timer <;> cases params.events.get? timer <;> rfl

variable {params}

/-- What the parameters that are accepted have in common. -/
structure Accepted (params : SpawnParams) : Prop where
  mode : params.mode ≤ 7
  subMode : params.subMode ≤ 3
  ticks : ∀ timer, 0 ≤ (params.ticks timer).toInt

theorem accepted_of_validate (valid : params.validate = .ok ()) : params.Accepted := by
  have sound : params.problem? = none := by
    simp only [validate] at valid
    split at valid
    · cases valid
    · assumption
  simp only [problem?] at sound
  split_ifs at sound with blank mode subMode
  refine ⟨UInt8.not_lt.mp mode, UInt8.not_lt.mp subMode, fun timer => ?_⟩
  cases given : params.timers.get? timer with
  | none => simp [SpawnParams.ticks, given]
  | some value =>
    have checked := List.find?_eq_none.mp (Option.map_eq_none_iff.mp sound) _ (TimerMap.mem_toList given)
    have above : ¬ value.toInt < 0 := by
      simpa only [decide_eq_true_iff, Int16.lt_iff_toInt_lt, Int16.toInt_zero] using checked
    simp only [SpawnParams.ticks, given, Option.getD_some]
    omega

end SpawnParams

namespace Actor

variable {id : ActorId} {params : SpawnParams}

theorem remaining_spawn (accepted : params.Accepted) (timer : TimerName) :
    ((params.toActor id).timers.remaining timer).toInt = (params.ticks timer).toInt := by
  have above := accepted.ticks timer
  change (params.timerBank.remaining timer).toInt = _
  rw [TimerBank.remaining, SpawnParams.slot_timerBank, Countdown.toInt_armed]
  omega

theorem event_spawn (timer : TimerName) :
    ((params.toActor id).timers.slot timer).event = params.code timer := by
  change (params.timerBank.slot timer).event = _
  rw [SpawnParams.slot_timerBank]

theorem selector_spawn (accepted : params.Accepted) :
    (params.toActor id).status.selector = params.mode :=
  StatusWord.selector_setSelector accepted.mode

theorem subMode_spawn (accepted : params.Accepted) :
    (params.toActor id).flags.subMode = params.subMode :=
  ControlFlags.subMode_setSubMode _ accepted.subMode

end Actor
end Rotorcraft
