import Rotorcraft.Proofs.Aiming
import Rotorcraft.Proofs.Spelling

/-! # Seeding a record

Parameters are accepted if they fit into the fields of a record, and what is accepted is carried without loss:
the parameters can be read back from the record in a normal form, in which the angles are within a turn, the
control word has no sub-mode of its own and every timer has its ticks and its code. So two actors come out
equal exactly if their parameters have one normal form.
-/

namespace Rotorcraft

namespace SpawnParams

variable {params : SpawnParams}

/-- Parameters that fit into the fields of a record. -/
structure Storable (params : SpawnParams) : Prop where
  named : ∃ c ∈ params.name.toList, Text.isBlank c = false
  mode : params.mode.toNat ≤ 7
  subMode : params.subMode.toNat ≤ 3
  timers : ∀ timer ticks, params.timers.get? timer = some ticks → 0 ≤ ticks.toInt

private theorem named_iff (name : String) :
    (Text.trim name.toList).isEmpty = false ↔ ∃ c ∈ name.toList, Text.isBlank c = false := by
  rw [← Bool.not_eq_true, List.isEmpty_iff, Text.trim_eq_nil_iff]
  push Not
  simp only [ne_eq, Bool.not_eq_true]

private theorem find?_negative_eq_none_iff (timers : TimerMap Int16) :
    (timers.toList.find? fun entry => entry.2 < 0) = none ↔
      ∀ timer ticks, timers.get? timer = some ticks → 0 ≤ ticks.toInt := by
  rw [List.find?_eq_none]
  constructor
  · intro sound timer ticks given
    have checked := sound _ (TimerMap.mem_toList given)
    simpa only [decide_eq_true_iff, Int16.lt_iff_toInt_lt, Int16.toInt_zero, Int.not_lt] using checked
  · rintro sound entry mem
    obtain ⟨timer, -, found⟩ := List.mem_filterMap.mp mem
    obtain ⟨ticks, given, rfl⟩ := Option.map_eq_some_iff.mp found
    simpa only [decide_eq_true_iff, Int16.lt_iff_toInt_lt, Int16.toInt_zero, Int.not_lt] using
      sound timer ticks given

/-- The parameters that are accepted are those that fit. -/
theorem validate_eq_ok_iff : params.validate = .ok () ↔ params.Storable := by
  have sound : params.validate = .ok () ↔ params.problem? = none := by
    rw [validate]
    cases params.problem? <;> simp
  rw [sound, problem?]
  have timers := find?_negative_eq_none_iff params.timers
  constructor
  · intro none
    split_ifs at none with blank mode subMode
    rw [Option.map_eq_none_iff] at none
    exact ⟨(named_iff _).mp (Bool.eq_false_iff.mpr blank), UInt8.le_iff_toNat_le.mp (UInt8.not_lt.mp mode),
      UInt8.le_iff_toNat_le.mp (UInt8.not_lt.mp subMode), timers.mp none⟩
  · intro fits
    rw [if_neg (Bool.eq_false_iff.mp ((named_iff _).mpr fits.named)),
      if_neg (UInt8.not_lt.mpr (UInt8.le_iff_toNat_le.mpr fits.mode)),
      if_neg (UInt8.not_lt.mpr (UInt8.le_iff_toNat_le.mpr fits.subMode)), Option.map_eq_none_iff]
    exact timers.mpr fits.timers

theorem Storable.accepted (fits : params.Storable) : params.Accepted :=
  accepted_of_validate (validate_eq_ok_iff.mpr fits)

end SpawnParams

theorem Actor.spawn_of_storable {params : SpawnParams} (fits : params.Storable) (id : ActorId) :
    Actor.spawn id params = .ok (params.toActor id) := by
  rw [spawn, SpawnParams.validate_eq_ok_iff.mpr fits]
  rfl

theorem Actor.spawn_eq_ok_iff {params : SpawnParams} {id : ActorId} {actor : Actor} :
    Actor.spawn id params = .ok actor ↔ params.Storable ∧ params.toActor id = actor := by
  constructor
  · intro spawned
    cases valid : params.validate with
    | error error =>
      rw [spawn, valid] at spawned
      cases spawned
    | ok _ =>
      have fits := SpawnParams.validate_eq_ok_iff.mp valid
      rw [spawn_of_storable fits] at spawned
      exact ⟨fits, Except.ok.inj spawned⟩
  · rintro ⟨fits, rfl⟩
    exact spawn_of_storable fits id

/-- A record that carries the parameters, with everything that these do not mention zeroed. -/
structure SpawnParams.Carries (params : SpawnParams) (id : ActorId) (actor : Actor) : Prop where
  id : actor.id = id
  name : actor.name = params.name
  position : actor.position = params.position
  yaw : actor.orientation.yaw.units.val = params.yaw.toNat % 4096
  roll : actor.orientation.roll.units.val = params.roll.toNat % 4096
  spin : actor.spin = params.spin
  altitude : actor.altitude = params.altitude
  pathAsset : actor.pathAsset = params.pathAsset
  selector : actor.status.selector = params.mode
  /-- The bits of the status word that belong to the host are clear. -/
  status : actor.status.word.toNat = 256 * params.mode.toNat
  subMode : actor.flags.subMode = params.subMode
  /-- The bits without a name included. -/
  flags : ControlFlags.SameOutside .subModeField actor.flags params.flags
  ticks : ∀ timer, actor.timers.remaining timer = (params.timers.get? timer).getD 0
  codes : ∀ timer,
    (actor.timers.slot timer).event = ((params.events.get? timer).map EventCode.mk).getD timer.defaultEvent
  zeroed : actor.turret = none ∧ actor.pendingEvent = none ∧ actor.derived = {} ∧
    actor.path = List.replicate 64 0 ∧ actor.pathLength = 0

theorem Angle.units_ofWord (word : UInt16) : (ofWord word).units.val = word.toNat % 4096 := by
  have reduced := toInt_ofInt word.toNat
  rw [toInt] at reduced
  rw [ofWord]
  omega

theorem Angle.ofWord_mod (word : UInt16) : ofWord (word % 4096) = ofWord word := by
  have units : (ofWord (word % 4096)).units.val = (ofWord word).units.val := by
    rw [units_ofWord, units_ofWord, UInt16.toNat_mod]
    exact Nat.mod_mod _ _
  exact units_injective units

/-- In a fresh status word, a selector of three bits stands alone. -/
theorem StatusWord.toNat_setSelector {selector : UInt8} (small : selector ≤ 7) :
    (({} : StatusWord).setSelector (Mode.ofSelector selector).selector).word.toNat = 256 * selector.toNat :=
  forall_selector (P := fun selector =>
    (({} : StatusWord).setSelector (Mode.ofSelector selector).selector).word.toNat = 256 * selector.toNat)
    (by decide) small

namespace SpawnParams

variable {params : SpawnParams}

theorem carries_toActor (fits : params.Storable) (id : ActorId) : params.Carries id (params.toActor id) where
  id := rfl
  name := rfl
  position := rfl
  yaw := Angle.units_ofWord params.yaw
  roll := Angle.units_ofWord params.roll
  spin := rfl
  altitude := rfl
  pathAsset := rfl
  selector := Actor.selector_spawn fits.accepted
  status := StatusWord.toNat_setSelector fits.accepted.mode
  subMode := Actor.subMode_spawn fits.accepted
  flags := ControlFlags.SameOutside.setSubMode params.flags params.subMode
  ticks timer := Int16.toInt_inj.mp (Actor.remaining_spawn fits.accepted timer)
  codes timer := Actor.event_spawn timer
  zeroed := ⟨rfl, rfl, rfl, rfl, rfl⟩

end SpawnParams

def TimerMap.fill {α : Type} (map : TimerMap α) (default : TimerName → α) : TimerMap α where
  fire := some ((map.get? .fire).getD (default .fire))
  sweep := some ((map.get? .sweep).getD (default .sweep))
  hover := some ((map.get? .hover).getD (default .hover))
  alert := some ((map.get? .alert).getD (default .alert))

theorem TimerMap.get?_fill {α : Type} (map : TimerMap α) (default : TimerName → α) (timer : TimerName) :
    (map.fill default).get? timer = some ((map.get? timer).getD (default timer)) := by
  cases timer <;> rfl

theorem TimerMap.fill_congr {α : Type} {map other : TimerMap α} {default fallback : TimerName → α}
    (same : ∀ timer, (map.get? timer).getD (default timer) = (other.get? timer).getD (fallback timer)) :
    map.fill default = other.fill fallback := by
  rw [fill, fill, same .fire, same .sweep, same .hover, same .alert]

namespace SpawnParams

/-- The normal form of parameters: no full turns, no sub-mode in the flags, and nothing left to a default. -/
def canonical (params : SpawnParams) : SpawnParams :=
  { params with
    flags := params.flags.remove .subModeField
    yaw := params.yaw % 4096
    roll := params.roll % 4096
    timers := params.timers.fill fun _ => 0
    events := params.events.fill fun timer => timer.defaultEvent.word }

/-- The parameters in normal form that a record carries. -/
def ofActor (actor : Actor) : SpawnParams where
  name := actor.name
  mode := actor.status.selector
  subMode := actor.flags.subMode
  flags := actor.flags.remove .subModeField
  position := actor.position
  yaw := actor.orientation.yaw.toWord
  roll := actor.orientation.roll.toWord
  spin := actor.spin
  altitude := actor.altitude
  timers := ({} : TimerMap Int16).fill actor.timers.remaining
  events := ({} : TimerMap UInt16).fill fun timer => (actor.timers.slot timer).event.word
  pathAsset := actor.pathAsset

private theorem toWord_of_units {angle : Angle} {word : UInt16} (units : angle.units.val = word.toNat % 4096) :
    angle.toWord = word % 4096 := by
  apply UInt16.toNat_inj.mp
  have bound := word.toNat_lt
  rw [Angle.toWord, units, UInt16.toNat_mod, UInt16.toNat_ofNat']
  change word.toNat % 4096 % 65536 = word.toNat % 4096
  omega

variable {params other : SpawnParams} {id : ActorId}

/-- From a record that carries parameters, their normal form can be read back. -/
theorem Carries.ofActor {actor : Actor} (carries : params.Carries id actor) :
    SpawnParams.ofActor actor = params.canonical := by
  have timers : ({} : TimerMap Int16).fill actor.timers.remaining = params.timers.fill fun _ => 0 := by
    apply TimerMap.fill_congr
    intro timer
    rw [← carries.ticks timer]
    cases timer <;> rfl
  have events : (({} : TimerMap UInt16).fill fun timer => (actor.timers.slot timer).event.word) =
      params.events.fill fun timer => timer.defaultEvent.word := by
    apply TimerMap.fill_congr
    intro timer
    rw [carries.codes timer]
    cases params.events.get? timer <;> cases timer <;> rfl
  have flags : actor.flags.remove .subModeField = params.flags.remove .subModeField :=
    congrArg ControlFlags.mk carries.flags
  rw [SpawnParams.ofActor, canonical, carries.name, carries.selector, carries.subMode, flags, carries.position,
    toWord_of_units carries.yaw, toWord_of_units carries.roll, carries.spin, carries.altitude, timers, events,
    carries.pathAsset]

/-- Normal forms lose nothing that a record keeps. -/
theorem toActor_canonical (params : SpawnParams) (id : ActorId) : params.canonical.toActor id = params.toActor id := by
  have timers : params.canonical.timerBank = params.timerBank := by
    apply TimerBank.ext_slot
    intro timer
    rw [slot_timerBank, slot_timerBank, ticks, ticks, code, code, canonical, TimerMap.get?_fill, TimerMap.get?_fill]
    cases params.events.get? timer <;> rfl
  have flags : (params.flags.remove .subModeField).setSubMode params.subMode =
      params.flags.setSubMode params.subMode := by
    rw [ControlFlags.setSubMode, ControlFlags.setSubMode,
      ControlFlags.remove_eq_self (ControlFlags.intersects_remove_self _ _)]
  rw [toActor, toActor, timers]
  simp only [canonical, Angle.ofWord_mod, flags]

/-- Parameters that fit describe one record if and only if they have one normal form. -/
theorem toActor_eq_iff (fits : params.Storable) (otherFits : other.Storable) :
    params.toActor id = other.toActor id ↔ params.canonical = other.canonical := by
  constructor
  · intro same
    rw [← (carries_toActor fits id).ofActor, ← (carries_toActor otherFits id).ofActor, same]
  · intro same
    rw [← params.toActor_canonical, same, other.toActor_canonical]

end SpawnParams

/-- An actor is made exactly from parameters that fit, it carries them, and it tells them apart up to their
normal form. -/
theorem Actor.spawn_faithful (id : ActorId) (params : SpawnParams) :
    ((∃ actor, Actor.spawn id params = .ok actor) ↔ params.Storable) ∧
      (∀ actor, Actor.spawn id params = .ok actor → params.Carries id actor) ∧
      ∀ other : SpawnParams, params.Storable → other.Storable →
        (Actor.spawn id params = Actor.spawn id other ↔ params.canonical = other.canonical) := by
  refine ⟨⟨?_, ?_⟩, ?_, ?_⟩
  · rintro ⟨actor, spawned⟩
    exact (Actor.spawn_eq_ok_iff.mp spawned).1
  · intro fits
    exact ⟨_, Actor.spawn_of_storable fits id⟩
  · intro actor spawned
    obtain ⟨fits, rfl⟩ := Actor.spawn_eq_ok_iff.mp spawned
    exact SpawnParams.carries_toActor fits id
  · intro other fits otherFits
    rw [Actor.spawn_of_storable fits, Actor.spawn_of_storable otherFits, Except.ok.injEq]
    exact SpawnParams.toActor_eq_iff fits otherFits

/-- Parameters that differ by a full turn, by the sub-mode in the flags and by defaults that are written out make
one actor; a bit of the flags without a name tells two actors apart. -/
theorem Actor.spawn_faithful_one_form :
    let params : SpawnParams :=
      { name := " Hind", mode := 7, subMode := 2, flags := ⟨0xFE04⟩, yaw := 5000, timers := { fire := some 3 } }
    let spelled : SpawnParams :=
      { params with
        flags := ⟨0xFE00⟩, yaw := 904, timers := ⟨some 3, some 0, none, some 0⟩
        events := { sweep := some 0x0102 } }
    let marked : SpawnParams := { params with flags := ⟨0x7E04⟩ }
    (params.Storable ∧ spelled.Storable ∧ marked.Storable) ∧
      (∃ actor, Actor.spawn ⟨.ofNat 9⟩ params = .ok actor ∧ params.Carries ⟨.ofNat 9⟩ actor) ∧
      Actor.spawn ⟨.ofNat 9⟩ params = Actor.spawn ⟨.ofNat 9⟩ spelled ∧
      Actor.spawn ⟨.ofNat 9⟩ params ≠ Actor.spawn ⟨.ofNat 9⟩ marked := by
  intro params spelled marked
  have fits : params.Storable := SpawnParams.validate_eq_ok_iff.mp (by decide)
  have spelledFits : spelled.Storable := SpawnParams.validate_eq_ok_iff.mp (by decide)
  have markedFits : marked.Storable := SpawnParams.validate_eq_ok_iff.mp (by decide)
  obtain ⟨succeeds, carries, separates⟩ := spawn_faithful ⟨.ofNat 9⟩ params
  obtain ⟨actor, spawned⟩ := succeeds.mpr fits
  refine ⟨⟨fits, spelledFits, markedFits⟩, ⟨actor, spawned, carries actor spawned⟩, ?_, ?_⟩
  · exact (separates spelled fits spelledFits).mpr (by decide)
  · exact mt (separates marked fits markedFits).mp (by decide)

end Rotorcraft
