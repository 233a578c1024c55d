import Rotorcraft.Proofs.Copies
import Rotorcraft.Proofs.MachineStages

/-! # A tick in machine arithmetic

The counted copy moves words by their indices, and with it the transfer stage and the actions of a scripted stage
are programs of machine arithmetic like the other stages. A whole pipeline of stages then is one, too. None of
them ever stops, so the arithmetic of a tick is that of the integers, in a build that checks it and in one that
does not. The clock and the counters of the stages, which only ever go up by what they count, are not part of it,
and a stage of the host computes what it does by itself.
-/

namespace Rotorcraft
namespace Machine

def moveWords (payload : List UInt8) : Nat → List UInt8 → Machine (List UInt8)
  | 0, target => return target
  | count + 1, target => do
    let moved ← moveWords payload count target
    let word ← slice payload (count * 4) (count * 4 + 4)
    fill moved (count * 4) (count * 4 + 4) word

/-- Moves half a word behind whole ones. -/
def moveHalf (payload : List UInt8) (words : Int) (target : List UInt8) : Machine (List UInt8) := do
  let start ← shl .usize words 2
  let stop ← add .usize start 2
  let half ← slice payload start.toNat stop.toNat
  fill target start.toNat stop.toNat half

def moveUnits (payload : List UInt8) (words : Int) (residual : Nat) (target : List UInt8) :
    Machine (List UInt8) := do
  let chunks := min (target.length / 4) (payload.length / 4)
  let moved ← moveWords payload (min words.toNat chunks) target
  if residual = 0 then return moved else moveHalf payload words moved

def copy (source target : List UInt8) : Machine (Except CopyError (Nat × List UInt8)) :=
  match CountedBuffer.payloadLength source with
  | .error error => return .error error
  | .ok length =>
    if length = 0 then return .ok (0, target)
    else do
      let words ← shr .usize length 2
      let residual := length &&& 2
      let whole ← shl .usize words 2
      let needed ← add .usize whole residual
      let payload ← slice source 4 source.length
      if payload.length < needed then return .error (.sourceTruncated needed.toNat payload.length)
      else if target.length < needed then
        return .error (.destinationTooSmall needed.toNat target.length)
      else return .ok (needed.toNat, ← moveUnits payload words residual target)

/-- A piece of the payload goes to where it was. -/
theorem fill_slice {payload target : List UInt8} {start stop : Nat} (order : start ≤ stop)
    (sent : stop ≤ payload.length) (room : stop ≤ target.length) :
    fill (payload.take start ++ target.drop start) start stop ((payload.take stop).drop start) =
      pure (payload.take stop ++ target.drop stop) := by
  have whole : stop ≤ (payload.take start ++ target.drop start).length := by
    rw [List.length_append, List.length_take_of_le (by omega), List.length_drop]
    omega
  rw [fill_eq order whole (by rw [List.length_drop, List.length_take_of_le sent]),
    CountedBuffer.append_piece order sent]

/-- Words within both lists are moved as one block. -/
theorem moveWords_eq {payload target : List UInt8} {count : Nat} (sent : count * 4 ≤ payload.length)
    (room : count * 4 ≤ target.length) : moveWords payload count target =
      pure (payload.take (count * 4) ++ target.drop (count * 4)) := by
  induction count with
  | zero => rfl
  | succ count ih =>
    rw [moveWords, ih (by omega) (by omega), pure_bind, slice_eq (by omega) (by omega), pure_bind,
      fill_slice (by omega) (by omega) (by omega), Nat.succ_mul]

theorem moveHalf_eq {payload target : List UInt8} {words : Nat} (small : words < 0x40000000)
    (sent : words * 4 + 2 ≤ payload.length) (room : words * 4 + 2 ≤ target.length) :
    moveHalf payload words (payload.take (words * 4) ++ target.drop (words * 4)) =
      pure (payload.take (words * 4 + 2) ++ target.drop (words * 4 + 2)) := by
  have start : shl .usize words 2 = pure ((words * 4 : Nat) : Int) := by
    apply shl_eq (by decide)
    simp only [Word.Holds, Word.least, Word.count]
    omega
  have stop : add .usize ((words * 4 : Nat) : Int) 2 = pure ((words * 4 + 2 : Nat) : Int) := by
    apply add_eq
    simp only [Word.Holds, Word.least, Word.count]
    omega
  rw [moveHalf, start, pure_bind, stop, pure_bind, Int.toNat_natCast, Int.toNat_natCast,
    slice_eq (by omega) sent, pure_bind, fill_slice (by omega) sent room]

/-- The payload is what lies behind the four bytes of the header. -/
theorem slice_payload {source payload : List UInt8} {length : Nat}
    (found : CountedBuffer.header? source = some (length, payload)) :
    slice source 4 source.length = pure payload := by
  unfold CountedBuffer.header? at found
  split at found
  · obtain ⟨_, rfl⟩ := Prod.mk.inj (Option.some.inj found)
    rw [slice_eq (by simp) (Nat.le_refl _), List.take_length]
    rfl
  · cases found

/-- The words and half words of a payload are its even part. -/
theorem moveUnits_eq {payload target : List UInt8} {length : Nat} (small : length < 0x100000000)
    (sent : CountedBuffer.evenPart length ≤ payload.length)
    (room : CountedBuffer.evenPart length ≤ target.length) :
    moveUnits payload (length / 4 : Nat) (length &&& 2) target =
      pure (payload.take (CountedBuffer.evenPart length) ++
        target.drop (CountedBuffer.evenPart length)) := by
  rw [CountedBuffer.evenPart] at sent room ⊢
  have chunks : min ((length / 4 : Nat) : Int).toNat (min (target.length / 4) (payload.length / 4)) =
      length / 4 := by
    rw [Int.toNat_natCast]
    omega
  rw [moveUnits, chunks, moveWords_eq (by omega) (by omega), pure_bind, CountedBuffer.and_two]
  have parity := Nat.mod_two_eq_zero_or_one (length / 2)
  rcases parity with even | odd
  · have whole : length / 2 * 2 = length / 4 * 4 := by omega
    rw [even, if_pos rfl, whole]
  · have whole : length / 2 * 2 = length / 4 * 4 + 2 := by omega
    rw [odd, if_neg (by decide), moveHalf_eq (by omega) (by omega) (by omega), whole]

theorem copy_eq (source target : List UInt8) :
    copy source target = pure (CountedBuffer.copy source target) := by
  rw [copy, CountedBuffer.payloadLength, CountedBuffer.copy_eq]
  cases found : CountedBuffer.header? source with
  | none => rfl
  | some announced =>
    obtain ⟨length, payload⟩ := announced
    have small := CountedBuffer.header?_lt found
    simp only
    by_cases empty : length = 0
    · subst empty
      simp [CountedBuffer.evenPart]
    · have words : shr .usize length 2 = pure ((length / 4 : Nat) : Int) := by
        apply shr_eq (by decide)
        simp only [Word.Holds, Word.least, Word.count]
        omega
      have whole : shl .usize ((length / 4 : Nat) : Int) 2 = pure ((length / 4 * 4 : Nat) : Int) := by
        apply shl_eq (by decide)
        simp only [Word.Holds, Word.least, Word.count]
        omega
      have needed : add .usize ((length / 4 * 4 : Nat) : Int) (length &&& 2 : Nat) =
          pure (CountedBuffer.evenPart length : Int) := by
        have sum : ((length / 4 * 4 : Nat) : Int) + (length &&& 2 : Nat) =
            CountedBuffer.evenPart length := by
          rw [CountedBuffer.and_two, CountedBuffer.evenPart]
          omega
        rw [← sum]
        apply add_eq
        rw [CountedBuffer.and_two]
        simp only [Word.Holds, Word.least, Word.count]
        omega
      rw [if_neg empty, words, pure_bind, whole, pure_bind, needed, pure_bind, slice_payload found,
        pure_bind]
      simp only [Int.ofNat_lt, Int.toNat_natCast]
      split
      · rfl
      · split
        · rfl
        · rw [moveUnits_eq small (by omega) (by omega), pure_bind]

def store (frame : Frame) (actor : Actor) (key : String) (bytes : List UInt8) : Machine Pass := do
  match ← copy bytes actor.path with
  | .ok (copied, path) =>
    return {
      actor := { actor with path := path, pathLength := UInt64.ofNat copied }
      calls := [.load key] }
  | .error error =>
    return {
      actor := actor
      events := [TransferStage.copyFailedEvent frame actor key error]
      calls := [.load key] }

def transfer (frame : Frame) (actor : Actor) : Machine Pass :=
  if !actor.hasFlag .reloadPath then return .silent actor
  else
    let consumed := actor.clearFlag .reloadPath
    match consumed.pathAsset with
    | none => return .silent consumed
    | some key =>
      match frame.host.asset? key with
      | some bytes => store frame consumed key bytes
      | none =>
        return {
          actor := consumed
          events := [TransferStage.unavailableEvent frame consumed key]
          calls := [.load key] }

/-- What an action of a scripted stage does; only a division and a copy compute. -/
def act (frame : Frame) (actor : Actor) : HostAction → Machine Pass
  | .divide numerator denominator => do
    match ← divide numerator denominator with
    | .ok velocity => return .silent { actor with derived := { actor.derived with velocity := velocity } }
    | .error fault => return { actor := actor, error := some (.division fault) }
  | .copy source => do
    match ← copy source actor.path with
    | .ok (copied, path) => return .silent { actor with path := path, pathLength := UInt64.ofNat copied }
    | .error error => return { actor := actor, error := some (.copy error) }
  | action => return Script.act frame actor action

def actAll (frame : Frame) : List HostAction → Actor → Machine Pass
  | [], actor => return .silent actor
  | action :: rest, actor => do
    let pass ← act frame actor action
    match pass.error with
    | some _ => return pass
    | none => return pass.followedBy (← actAll frame rest pass.actor)

def scripted (frame : Frame) (script : Script) (actor : Actor) : Machine Pass :=
  if script.only.all (· == actor.name) then actAll frame script.actions actor else return .silent actor

theorem store_eq (frame : Frame) (counters : TransferCounters) (actor : Actor) (key : String)
    (bytes : List UInt8) :
    store frame actor key bytes = pure (TransferStage.store frame counters actor key bytes).2 := by
  rw [store, copy_eq, pure_bind, TransferStage.store]
  cases CountedBuffer.copy bytes actor.path with
  | ok copied => rfl
  | error error => rfl

theorem transfer_eq (frame : Frame) (counters : TransferCounters) (actor : Actor) :
    transfer frame actor = pure (TransferStage.run frame counters actor).2 := by
  rw [transfer, TransferStage.run]
  split
  · rfl
  · simp only [TransferStage.load]
    cases (actor.clearFlag .reloadPath).pathAsset with
    | none => rfl
    | some key =>
      simp only
      cases frame.host.asset? key with
      | none => rfl
      | some bytes => exact store_eq frame counters _ key bytes

theorem act_eq (frame : Frame) (actor : Actor) (action : HostAction) :
    act frame actor action = pure (Script.act frame actor action) := by
  cases action with
  | divide numerator denominator =>
    rw [act, divide_eq, pure_bind, Script.act]
    cases FixedPoint.safeDivide numerator denominator with
    | ok velocity => rfl
    | error fault => rfl
  | copy source =>
    rw [act, copy_eq, pure_bind, Script.act]
    cases CountedBuffer.copy source actor.path with
    | ok copied => rfl
    | error error => rfl
  | fail reason => rfl
  | validate params => rfl
  | forward code => rfl
  | announce label => rfl

theorem actAll_eq (frame : Frame) (actions : List HostAction) (actor : Actor) :
    actAll frame actions actor = pure (Script.actAll frame actor actions) := by
  induction actions generalizing actor with
  | nil => rfl
  | cons action rest ih =>
    rw [actAll, act_eq, pure_bind, Script.actAll]
    cases outcome : (Script.act frame actor action).error with
    | some error => rfl
    | none =>
      simp only [ih, pure_bind]

theorem scripted_eq (frame : Frame) (script : Script) (actor : Actor) :
    scripted frame script actor = pure (script.run frame actor) := by
  rw [scripted, Script.run]
  split
  · exact actAll_eq frame script.actions actor
  · rfl

def stage (frame : Frame) : Stage → Actor → Machine Pass
  | .timers _ => timers frame
  | .motion _ => motion frame
  | .dispatch _ => dispatch frame
  | .transfer _ => transfer frame
  | .scripted script => scripted frame script
  | .hosted stage => fun actor => return stage.run frame actor

def tick (frame : Frame) : List Stage → Actor → Machine Pass
  | [], actor => return .silent actor
  | first :: rest, actor => do
    let pass ← stage frame first actor
    match pass.error with
    | some _ => return pass
    | none => return pass.followedBy (← tick frame rest pass.actor)

def pathBytes (actor : Actor) : Machine (List UInt8) :=
  slice actor.path 0 (min actor.pathLength.toNat actor.path.length)

theorem stage_eq (frame : Frame) (first : Stage) (actor : Actor) :
    stage frame first actor = pure (first.run frame actor).2 := by
  cases first with
  | timers counters => exact timers_eq frame counters actor
  | motion counters => exact motion_eq frame counters actor
  | dispatch counters => exact dispatch_eq frame counters actor
  | transfer counters => exact transfer_eq frame counters actor
  | scripted script => exact scripted_eq frame script actor
  | hosted stage => rfl

theorem tick_eq (frame : Frame) (stages : List Stage) (actor : Actor) :
    tick frame stages actor = pure (Pipeline.run frame stages actor).2 := by
  induction stages generalizing actor with
  | nil => rfl
  | cons first rest ih =>
    rw [tick, stage_eq, pure_bind, Pipeline.run]
    cases outcome : (first.run frame actor).2.error with
    | some error => simp only [outcome]
    | none => simp only [outcome, ih, pure_bind]

theorem pathBytes_eq (actor : Actor) : pathBytes actor = pure actor.pathBytes := by
  rw [pathBytes, slice_eq (Nat.zero_le _) (Nat.min_le_right _ _), List.drop_zero, Actor.pathBytes,
    ← List.take_eq_take_min]

/-- No operator of a tick leaves the range of its type, no division is without a quotient and no index is out of
bounds, whatever the actor, the settings, the reference, the turrets, the assets and the stages are: with and
without checks a tick computes what it computes over the integers. -/
theorem tick_in_range (frame : Frame) (stages : List Stage) (actor : Actor) (build : Build) :
    tick frame stages actor build = .ok (Pipeline.run frame stages actor).2 ∧
      pathBytes actor build = .ok actor.pathBytes := by
  rw [tick_eq, pathBytes_eq]
  exact ⟨rfl, rfl⟩

end Machine
end Rotorcraft
