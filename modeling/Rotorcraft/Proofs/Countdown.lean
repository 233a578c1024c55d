import Mathlib.Data.List.Basic
import Rotorcraft.Timer

/-! # Countdowns over the integers

A countdown that starts with a number of ticks left fires on exactly one of them. The 16-bit
subtraction never wraps, because it is made above zero only, so everything is said over the integers.
-/

namespace Rotorcraft

namespace Countdown

private theorem toInt_pred {ticks : Int16} (running : 0 < ticks.toInt) :
    (ticks - 1).toInt = ticks.toInt - 1 := by
  have bound := ticks.toInt_lt
  rw [Int16.toInt_sub, show Int16.toInt 1 = 1 from rfl]
  exact Int.bmod_eq_of_le (by omega) (by omega)

private theorem le_zero_iff (ticks : Int16) : ticks ≤ 0 ↔ ticks.toInt ≤ 0 := by
  rw [Int16.le_iff_toInt_le, Int16.toInt_zero]

theorem toInt_tick (countdown : Countdown) :
    countdown.tick.1.remaining.toInt = max 0 (countdown.remaining.toInt - 1) := by
  simp only [tick]
  split
  · next idle =>
    have spent := (le_zero_iff _).mp idle
    rw [Int16.toInt_zero]
    omega
  · next busy =>
    have running := mt (le_zero_iff _).mpr busy
    rw [toInt_pred (by omega)]
    omega

/-- A countdown fires on its last tick only. -/
theorem tick_fires_iff (countdown : Countdown) :
    countdown.tick.2 = true ↔ countdown.remaining.toInt = 1 := by
  simp only [tick]
  split
  · next idle =>
    have spent := (le_zero_iff _).mp idle
    simp only [Bool.false_eq_true, false_iff]
    omega
  · next busy =>
    have running := mt (le_zero_iff _).mpr busy
    rw [beq_iff_eq, ← Int16.toInt_inj, toInt_pred (by omega), Int16.toInt_zero]
    omega

/-- A countdown is armed with the ticks that it is given, or with none if these are negative. -/
theorem toInt_armed (ticks : Int16) : (armed ticks).remaining.toInt = max 0 ticks.toInt := by
  simp only [armed]
  split
  · next negative =>
    have below := Int16.lt_iff_toInt_lt.mp negative
    rw [Int16.toInt_zero] at below ⊢
    omega
  · next other =>
    have above := mt Int16.lt_iff_toInt_lt.mpr other
    rw [Int16.toInt_zero] at above
    omega

end Countdown

/-- The multiples of a period, of which a period of zero has none. -/
theorem isPeriodic_iff {period clock : UInt64} :
    isPeriodic period clock = true ↔ period ≠ 0 ∧ period.toNat ∣ clock.toNat := by
  rw [isPeriodic, Bool.and_eq_true, bne_iff_ne, beq_iff_eq, ← UInt64.toNat_inj, UInt64.toNat_mod,
    UInt64.toNat_zero, Nat.dvd_iff_mod_eq_zero]

namespace TimerBank

/-- The slots that fire next are those with one tick left, in bank order. -/
theorem firing_eq (bank : TimerBank) : bank.firing =
    (TimerName.all.filter fun timer => (bank.remaining timer).toInt = 1).map
      fun timer => (timer, (bank.slot timer).event) := by
  have chosen (timer : TimerName) :
      (bank.slot timer).timer.tick.2 = decide ((bank.remaining timer).toInt = 1) := by
    rw [Bool.eq_iff_iff, decide_eq_true_iff]
    exact Countdown.tick_fires_iff _
  rw [firing, ← List.filterMap_eq_map, List.filterMap_filter]
  refine List.filterMap_congr fun timer _ => ?_
  rw [chosen timer]
  cases decide ((bank.remaining timer).toInt = 1) <;> rfl

theorem firing_codes (bank : TimerBank) : bank.firing.map (·.2) =
    (TimerName.all.filter fun timer => (bank.remaining timer).toInt = 1).map
      fun timer => (bank.slot timer).event := by
  rw [firing_eq, List.map_map]
  rfl

/-- A code that fires is bound to one of the slots. -/
theorem exists_slot_of_fires {bank : TimerBank} {code : EventCode}
    (fires : code ∈ bank.firing.map (·.2)) : ∃ timer, (bank.slot timer).event = code := by
  rw [firing_codes] at fires
  obtain ⟨timer, _, bound⟩ := List.mem_map.mp fires
  exact ⟨timer, bound⟩

end TimerBank
end Rotorcraft
