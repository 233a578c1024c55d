import Rotorcraft.Proofs.BankHistory
import Rotorcraft.Proofs.Faults
import Rotorcraft.Proofs.Machine
import Rotorcraft.Proofs.Standard
import Rotorcraft.Proofs.WellFormed

/-! # The stages in machine arithmetic

The stages that count timers down, move an actor and dispatch it, operator by operator, with the types in which
they compute. For every actor and every frame none of them stops, in either build, and each makes of the actor
what the stage makes of it.
-/

namespace Rotorcraft
namespace Machine

def countDown (countdown : Countdown) : Machine (Countdown × Bool) :=
  if countdown.remaining ≤ 0 then return (⟨0⟩, false)
  else do
    let remaining ← sub .i16 countdown.remaining.toInt 1
    return (⟨Int16.ofInt remaining⟩, remaining == 0)

/-- Where a slot lies in the bank. -/
def slotIndex : TimerName → Nat
  | .fire => 0
  | .sweep => 1
  | .hover => 2
  | .alert => 3

/-- Counts slots down in turn and reports the ones that fired. -/
def tickEach : List TimerName → TimerBank → Machine (TimerBank × List (TimerName × EventCode))
  | [], bank => return (bank, [])
  | name :: rest, bank => do
    let slot ← item bank.slots (slotIndex name)
    let (timer, fired) ← countDown slot.timer
    let (after, later) ← tickEach rest (bank.setSlot name { slot with timer := timer })
    return (after, if fired then (name, slot.event) :: later else later)

def timers (frame : Frame) (actor : Actor) : Machine Pass := do
  let (bank, fired) ← tickEach TimerName.all actor.timers
  let codes := fired.map (·.2)
  let latched := codes.foldl TimerStage.latch { actor with timers := bank }
  if codes.isEmpty then return frame.forward latched (TimerStage.rebroadcast? frame latched).toList
  else return frame.forward latched codes

/-- Only a countdown above zero is counted down, which leaves it in its range. -/
theorem countDown_eq (countdown : Countdown) : countDown countdown = pure countdown.tick := by
  rw [countDown, Countdown.tick]
  split
  · rfl
  · next busy =>
    have top := countdown.remaining.toInt_lt
    rw [Int16.le_iff_toInt_le, Int16.toInt_zero] at busy
    have holds : Word.i16.Holds (countdown.remaining.toInt - 1) := by
      simp only [Word.Holds, Word.least, Word.count]
      omega
    have stored : Int16.ofInt (countdown.remaining.toInt - 1) = countdown.remaining - 1 := by
      rw [Int16.ofInt_sub, Int16.ofInt_toInt]
      rfl
    have fires : (countdown.remaining.toInt - 1 == 0) = (countdown.remaining - 1 == 0) := by
      rw [Bool.eq_iff_iff, beq_iff_eq, beq_iff_eq, ← stored, ← Int16.toInt_inj,
        Int16.toInt_ofInt_of_le (by omega) (by omega), Int16.toInt_zero]
    rw [sub_eq holds, pure_bind, stored, fires]

theorem item_slots (bank : TimerBank) (name : TimerName) :
    item bank.slots (slotIndex name) = pure (bank.slot name) := by
  apply item_eq
  cases name <;> rfl

/-- One slot after the other, the slots are counted down as the countdowns alone would be. -/
theorem tickEach_names (names : List TimerName) (bank : TimerBank) :
    tickEach names bank = pure (TimerBank.tickInTurn names bank) := by
  induction names generalizing bank with
  | nil => rfl
  | cons name rest ih =>
    have stepped : bank.setSlot name { bank.slot name with timer := (bank.slot name).timer.tick.1 } =
        (bank.tick name).1 := rfl
    rw [tickEach, item_slots, pure_bind, countDown_eq, pure_bind, TimerBank.tickInTurn_cons]
    simp only [stepped, ih, pure_bind]

theorem tickEach_eq (bank : TimerBank) : tickEach TimerName.all bank = pure bank.tickAll := by
  rw [tickEach_names, TimerBank.tickInTurn_all]

theorem timers_eq (frame : Frame) (counters : TimerCounters) (actor : Actor) :
    timers frame actor = pure (TimerStage.run frame counters actor).2 := by
  rw [timers, tickEach_eq, pure_bind, TimerStage.run]
  simp only
  change (if (TimerStage.firedCodes actor).isEmpty then _ else _) = _
  split <;> rfl

def rotate (angle : Angle) (delta : Int16) : Machine Angle := do
  let units ← add .i32 angle.toInt delta.toInt
  return Angle.ofInt units

/-- One pursuit step of a 16-bit value; the step up is a wrapping one. -/
def attract (current : Int16) (target maxStep : Int) : Machine Int16 := do
  let gap ← sub .i64 target current.toInt
  let least ← neg .i64 maxStep
  if gap < least ∨ maxStep < gap then return Int16.ofInt (current.toInt + maxStep)
  else return Int16.ofInt target

def motion (frame : Frame) (actor : Actor) : Machine Pass := do
  let yaw ← rotate actor.orientation.yaw actor.spin.yaw
  let roll ← rotate actor.orientation.roll actor.spin.roll
  let turned := { actor with orientation := ⟨yaw, roll⟩ }
  if !turned.hasFlag .attractionActive then return .silent turned
  else do
    let altitude ← attract turned.altitude.current turned.altitude.target.toInt
      frame.config.attractionStep.toInt
    let climbed := { turned with altitude := { turned.altitude with current := altitude } }
    let codes :=
      if climbed.altitude.isSettled && !turned.altitude.isSettled then [MotionStage.altitudeReached]
      else []
    match frame.turret? climbed with
    | some turret => do
      let heading ← attract (Int16.ofInt yaw.toInt) turret.aim.toInt frame.config.aimStep.toInt
      let aimed := { climbed with orientation := ⟨Angle.ofInt heading.toInt, roll⟩ }
      return frame.forward aimed codes
    | none => return frame.forward climbed codes

theorem rotate_eq (angle : Angle) (delta : Int16) : rotate angle delta = pure (angle.rotate delta) := by
  have bound := angle.units.isLt
  have low := delta.le_toInt
  have high := delta.toInt_lt
  have holds : Word.i32.Holds (angle.toInt + delta.toInt) := by
    simp only [Word.Holds, Word.least, Word.count, Angle.toInt]
    omega
  rw [rotate, add_eq holds, pure_bind]
  rfl

/-- A gap between two words, and the opposite of one, have more than enough room in 64 bits. -/
theorem attract_eq (current : Int16) {target maxStep : Int} (aim : Word.i32.Holds target)
    (step : Word.i32.Holds maxStep) :
    attract current target maxStep = pure (approach current target maxStep) := by
  have low := current.le_toInt
  have high := current.toInt_lt
  simp only [Word.Holds, Word.least, Word.count] at aim step
  have gap : Word.i64.Holds (target - current.toInt) := by
    simp only [Word.Holds, Word.least, Word.count]
    omega
  have least : Word.i64.Holds (-maxStep) := by
    simp only [Word.Holds, Word.least, Word.count]
    omega
  rw [attract, sub_eq gap, pure_bind, neg_eq least, pure_bind, approach]
  split <;> rfl

theorem holds_int32 (value : Int32) : Word.i32.Holds value.toInt := by
  have low := value.le_toInt
  have high := value.toInt_lt
  simp only [Word.Holds, Word.least, Word.count]
  omega

theorem holds_int16 (value : Int16) : Word.i32.Holds value.toInt := by
  have low := value.le_toInt
  have high := value.toInt_lt
  simp only [Word.Holds, Word.least, Word.count]
  omega

theorem holds_uint16 (value : UInt16) : Word.u16.Holds value.toNat := by
  have high := value.toNat_lt
  simp only [Word.Holds, Word.least, Word.count]
  omega

theorem holds_angle (angle : Angle) : Word.i32.Holds angle.toInt := by
  have bound := angle.units.isLt
  simp only [Word.Holds, Word.least, Word.count, Angle.toInt]
  omega

theorem motion_eq (frame : Frame) (counters : MotionCounters) (actor : Actor) :
    motion frame actor = pure (MotionStage.run frame counters actor).2 := by
  simp only [motion, rotate_eq, pure_bind]
  change (if !(MotionStage.turn actor).hasFlag .attractionActive then _ else _) = _
  rw [MotionStage.run]
  simp only
  split
  · rfl
  · rw [attract_eq _ (holds_int16 _) (holds_int32 _), pure_bind]
    change (match frame.turret? (MotionStage.climb frame (MotionStage.turn actor)) with
      | some turret => _
      | none => _) = _
    cases frame.turret? (MotionStage.climb frame (MotionStage.turn actor)) with
    | none => rfl
    | some turret =>
      simp only
      rw [attract_eq _ (holds_angle _) (holds_int32 _), pure_bind]
      rfl

def threshold (config : Config) (flags : ControlFlags) : Machine Int32 := do
  let subMode ← shr .u16 (flags.bits &&& ControlFlags.subModeField.bits).toNat 2
  item config.pursuitThresholds.toList subMode.toNat

/-- The offset that is pursued; the two offsets are wrapping differences. -/
def pursuedOffset (frame : Frame) (actor : Actor) : Machine Int32 := do
  let threshold ← threshold frame.config actor.flags
  let primary := DispatchStage.primaryOffset frame actor
  let far ←
    if actor.hasFlag .secondaryPath then pure false
    else do
      let distance ← abs .i64 primary.toInt
      pure (decide (threshold.toInt ≤ distance))
  return if far then primary else DispatchStage.secondaryOffset frame actor

def divide (numerator denominator : Int32) : Machine (Except DivisionFault Int32) :=
  match FixedPoint.fault? numerator denominator with
  | some fault => return .error fault
  | none => do
    let quotient ← div .i32 numerator.toInt denominator.toInt
    return .ok (Int32.ofInt quotient)

/-- Half of a product, which its sign bit rounds. -/
def roundedHalf (product : Int) : Machine Int32 := do
  let signBit ← shr .u32 (Word.u32.keep product) 31
  let biased ← add .i32 product signBit
  let half ← shr .i32 biased 1
  return Int32.ofInt half

def headingDelta (ahead behind : Angle) : Machine Int := do
  let difference ← sub .i32 ahead.toInt behind.toInt
  if difference < 0 then add .i32 difference 4096 else return difference

def bank (actor : Actor) (delta : Int) : Machine Actor := do
  let turnRate ← shr .i32 delta 3
  let quarter ← shr .i32 delta 2
  let sixteenth ← shr .i32 delta 4
  let product ← add .i32 quarter sixteenth
  let half ← roundedHalf product
  return { actor with derived := { actor.derived with turnRate := Int32.ofInt turnRate, bank := half } }

def mode (status : StatusWord) : Machine Mode := do
  let selector ← shr .u16 (status.word &&& StatusWord.selectorMask).toNat 8
  return .ofSelector (UInt8.ofNat selector.toNat)

def branch (frame : Frame) (actor : Actor) : Machine (Except DivisionFault Actor) := do
  match ← mode actor.status with
  | .init => return .ok (DispatchStage.anchor frame actor)
  | .pursue => do
    let offset ← pursuedOffset frame actor
    let quotient ← divide offset frame.config.pursuitDivisor
    return quotient.map fun velocity =>
      { actor with derived := { actor.derived with velocity := velocity } }
  | .adjustLeft => do
    let delta ← headingDelta frame.reference.bearing actor.orientation.yaw
    return .ok (← bank actor delta)
  | .adjustRight => do
    let delta ← headingDelta actor.orientation.yaw frame.reference.bearing
    return .ok (← bank actor delta)
  | .fallback _ => return .ok (actor.setFlag .transitioned)

def dispatch (frame : Frame) (actor : Actor) : Machine Pass := do
  match ← branch frame actor with
  | .ok derived =>
    let finished := derived.setFlag .divisionSafe
    return { actor := finished, calls := DispatchStage.branchCalls frame actor ++ [.finalize finished] }
  | .error fault =>
    let finished := actor.clearFlag .divisionSafe
    return {
      actor := finished
      calls := DispatchStage.branchCalls frame actor ++ [.finalize finished]
      error := some (.division fault) }

theorem threshold_eq (config : Config) (flags : ControlFlags) :
    threshold config flags = pure (config.threshold flags) := by
  have field : (flags.bits &&& ControlFlags.subModeField.bits).toNat ≤ 12 := by
    rw [UInt16.toNat_and]
    exact Nat.and_le_right
  have subMode : ((flags.bits &&& ControlFlags.subModeField.bits).toNat / (2 ^ 2 : Nat) : Int).toNat =
      flags.subMode.toNat := by
    simp only [ControlFlags.subMode, UInt16.toNat_toUInt8, UInt16.toNat_shiftRight,
      show UInt16.toNat 2 % 16 = 2 from rfl, Nat.shiftRight_eq_div_pow]
    omega
  rw [threshold, shr_eq (by decide) (holds_uint16 _), pure_bind, subMode]
  apply item_eq
  rw [Vector.getElem?_toList, Vector.getElem?_eq_getElem flags.subMode_lt]
  rfl

theorem pursuedOffset_eq (frame : Frame) (actor : Actor) :
    pursuedOffset frame actor = pure (DispatchStage.pursuedOffset frame actor) := by
  have low := (DispatchStage.primaryOffset frame actor).le_toInt
  have high := (DispatchStage.primaryOffset frame actor).toInt_lt
  have holds : Word.i64.Holds (DispatchStage.primaryOffset frame actor).toInt.natAbs := by
    simp only [Word.Holds, Word.least, Word.count]
    omega
  rw [pursuedOffset, threshold_eq, pure_bind, DispatchStage.pursuedOffset]
  cases actor.hasFlag .secondaryPath with
  | true => rfl
  | false =>
    simp only [Bool.false_eq_true, if_false, abs_eq holds, pure_bind, decide_eq_true_eq, Bool.not_false,
      true_and]

theorem divide_eq (numerator denominator : Int32) :
    divide numerator denominator = pure (FixedPoint.safeDivide numerator denominator) := by
  rw [divide, FixedPoint.safeDivide]
  cases guarded : FixedPoint.fault? numerator denominator with
  | some fault => rfl
  | none =>
    obtain ⟨nonzero, quotient⟩ := FixedPoint.quotient_of_unguarded guarded
    have divisor : denominator.toInt ≠ 0 := by
      intro zero
      exact nonzero (Int32.toInt_inj.mp zero)
    have holds : Word.i32.Holds (numerator.toInt.tdiv denominator.toInt) := by
      rw [← quotient]
      exact holds_int32 _
    simp only
    rw [div_eq divisor holds, pure_bind, ← quotient, Int32.ofInt_toInt]

theorem roundedHalf_eq (product : Int32) :
    roundedHalf product.toInt = pure (FixedPoint.roundedHalf product) := by
  have low := product.le_toInt
  have high := product.toInt_lt
  have signBit : Word.u32.keep product.toInt / (2 ^ 31 : Nat) = if product < 0 then 1 else 0 := by
    simp only [Word.keep, Word.least, Word.count, Int32.lt_iff_toInt_lt, Int32.toInt_zero]
    split <;> omega
  have biased : Word.i32.Holds (FixedPoint.halfBiased product) := by
    simp only [Word.Holds, Word.least, Word.count, FixedPoint.halfBiased, Int32.lt_iff_toInt_lt,
      Int32.toInt_zero]
    split <;> omega
  rw [roundedHalf, shr_eq (by decide) (Word.u32.holds_keep _), pure_bind, signBit, add_eq biased,
    pure_bind, ← FixedPoint.halfBiased, shr_eq (by decide) biased, pure_bind]
  rfl

theorem headingDelta_eq (ahead behind : Angle) :
    headingDelta ahead behind = pure (wrapDelta (ahead.toInt - behind.toInt)) := by
  have first := ahead.units.isLt
  have second := behind.units.isLt
  have difference : Word.i32.Holds (ahead.toInt - behind.toInt) := by
    simp only [Word.Holds, Word.least, Word.count, Angle.toInt]
    omega
  rw [headingDelta, sub_eq difference, pure_bind, wrapDelta]
  split
  · apply add_eq
    simp only [Word.Holds, Word.least, Word.count, Angle.toInt]
    omega
  · rfl

/-- The difference of two directions is less than a turn, so that its parts and their sum are, too. -/
theorem bank_eq (actor : Actor) {delta : Int} (above : 0 ≤ delta) (below : delta < 4096) :
    bank actor delta = pure (DispatchStage.bank actor delta) := by
  have holds : Word.i32.Holds delta := by
    simp only [Word.Holds, Word.least, Word.count]
    omega
  have sum : Word.i32.Holds (delta / 4 + delta / 16) := by
    simp only [Word.Holds, Word.least, Word.count]
    omega
  have rate : shr .i32 delta 3 = pure (delta / 8) := shr_eq (by decide) holds
  have quarter : shr .i32 delta 2 = pure (delta / 4) := shr_eq (by decide) holds
  have sixteenth : shr .i32 delta 4 = pure (delta / 16) := shr_eq (by decide) holds
  have product : (Int32.ofInt (delta / 4 + delta / 16)).toInt = delta / 4 + delta / 16 :=
    Int32.toInt_ofInt_of_le (by omega) (by omega)
  have half := roundedHalf_eq (Int32.ofInt (delta / 4 + delta / 16))
  rw [product] at half
  rw [bank, rate, pure_bind, quarter, pure_bind, sixteenth, pure_bind,
    add_eq sum, pure_bind, half, pure_bind, DispatchStage.bank]

theorem mode_eq (status : StatusWord) : mode status = pure status.mode := by
  have selector :
      UInt8.ofNat ((status.word &&& StatusWord.selectorMask).toNat / (2 ^ 8 : Nat) : Int).toNat =
        status.selector := by
    apply UInt8.toNat_inj.mp
    simp only [StatusWord.selector, UInt8.toNat_ofNat', UInt16.toNat_toUInt8, UInt16.toNat_shiftRight,
      show UInt16.toNat 8 % 16 = 8 from rfl, Nat.shiftRight_eq_div_pow]
    rfl
  rw [mode, shr_eq (by decide) (holds_uint16 _), pure_bind, selector, StatusWord.mode]

theorem branch_eq (frame : Frame) (actor : Actor) :
    branch frame actor = pure (DispatchStage.branch frame actor) := by
  rw [branch, mode_eq, pure_bind, DispatchStage.branch, Actor.mode]
  cases actor.status.mode with
  | init => rfl
  | pursue =>
    simp only [pursuedOffset_eq, divide_eq, pure_bind]
    rfl
  | adjustLeft =>
    obtain ⟨above, below⟩ := Angle.wrapDelta_range frame.reference.bearing actor.orientation.yaw
    simp only [headingDelta_eq, bank_eq actor above below, pure_bind]
    rfl
  | adjustRight =>
    obtain ⟨above, below⟩ := Angle.wrapDelta_range actor.orientation.yaw frame.reference.bearing
    simp only [headingDelta_eq, bank_eq actor above below, pure_bind]
    rfl
  | fallback selector => rfl

theorem dispatch_eq (frame : Frame) (counters : DispatchCounters) (actor : Actor) :
    dispatch frame actor = pure (DispatchStage.run frame counters actor).2 := by
  rw [dispatch, branch_eq, pure_bind, DispatchStage.run, DispatchStage.dispatch]
  cases DispatchStage.branch frame actor with
  | ok derived => rfl
  | error fault => rfl

end Machine
end Rotorcraft
