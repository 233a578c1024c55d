import Mathlib.Tactic.NormNum
import Rotorcraft.Actor

/-! # Machine arithmetic

The plain operators of a machine integer compute over the integers. Where the result is not in the range of
their type, a build that checks its arithmetic stops, and one that does not keeps the low bits. Divisions and
indices are checked in both. So a program that returns the same in either build, and stops in none, never leaves
the range of its types.
-/

namespace Rotorcraft

/-- The types of machine integers; addresses have 64 bits. -/
inductive Word where
  | i16
  | u16
  | i32
  | u32
  | i64
  | usize
deriving DecidableEq, Repr

namespace Word

def bits : Word → Nat
  | .i16 | .u16 => 16
  | .i32 | .u32 => 32
  | .i64 | .usize => 64

def least : Word → Int
  | .i16 => -0x8000
  | .i32 => -0x80000000
  | .i64 => -0x8000000000000000
  | .u16 | .u32 | .usize => 0

def count : Word → Int
  | .i16 | .u16 => 0x10000
  | .i32 | .u32 => 0x100000000
  | .i64 | .usize => 0x10000000000000000

def Holds (word : Word) (value : Int) : Prop :=
  word.least ≤ value ∧ value < word.least + word.count

instance (word : Word) (value : Int) : Decidable (word.Holds value) :=
  inferInstanceAs (Decidable (_ ∧ _))

/-- The value of a type with the low bits of a number. -/
def keep (word : Word) (value : Int) : Int :=
  (value - word.least) % word.count + word.least

theorem least_le (word : Word) : word.least ≤ 0 := by
  cases word <;> decide

theorem least_add_count_pos (word : Word) : 0 < word.least + word.count := by
  cases word <;> decide

theorem holds_keep (word : Word) (value : Int) : word.Holds (word.keep value) := by
  have counted : 0 < word.count := by
    cases word <;> decide
  have low := Int.emod_nonneg (value - word.least) (Int.ne_of_gt counted)
  have high := Int.emod_lt_of_pos (value - word.least) counted
  rw [Holds, keep]
  omega

end Word

/-- Whether arithmetic is checked. -/
inductive Build where
  | checked
  | unchecked
deriving DecidableEq, Repr

/-- Why a program stops. -/
inductive Trap where
  | overflow
  | division
  | bounds
deriving DecidableEq, Repr

/-- A program of machine arithmetic, in either build. -/
abbrev Machine : Type → Type :=
  ReaderT Build (Except Trap)

namespace Machine

/-- What a plain operator makes of its exact result. -/
def exact (word : Word) (value : Int) : Machine Int := do
  if word.Holds value then return value
  match ← read with
  | .checked => throw .overflow
  | .unchecked => return word.keep value

def add (word : Word) (a b : Int) : Machine Int :=
  exact word (a + b)

def sub (word : Word) (a b : Int) : Machine Int :=
  exact word (a - b)

def mul (word : Word) (a b : Int) : Machine Int :=
  exact word (a * b)

def neg (word : Word) (a : Int) : Machine Int :=
  exact word (-a)

def abs (word : Word) (a : Int) : Machine Int :=
  exact word a.natAbs

/-- The amount of a shift; where it is not checked, it is taken modulo the bits of the type. -/
def amount (word : Word) (count : Nat) : Machine Nat := do
  if count < word.bits then return count
  match ← read with
  | .checked => throw .overflow
  | .unchecked => return count % word.bits

/-- A shift to the left, which must not lose bits where arithmetic is checked. -/
def shl (word : Word) (a : Int) (count : Nat) : Machine Int := do
  exact word (a.shiftLeft (← amount word count))

def shr (word : Word) (a : Int) (count : Nat) : Machine Int := do
  exact word (a.shiftRight (← amount word count))

def div (word : Word) (a b : Int) : Machine Int :=
  if b ≠ 0 ∧ word.Holds (a.tdiv b) then return a.tdiv b else throw .division

section Lists

variable {α : Type} (list : List α)

def item (index : Nat) : Machine α :=
  match list[index]? with
  | some value => return value
  | none => throw .bounds

def slice (start stop : Nat) : Machine (List α) :=
  if start ≤ stop ∧ stop ≤ list.length then return (list.take stop).drop start else throw .bounds

/-- Writes as many items as there are from one index up to another one. -/
def fill (start stop : Nat) (items : List α) : Machine (List α) :=
  if start ≤ stop ∧ stop ≤ list.length ∧ items.length = stop - start then
    return list.take start ++ items ++ list.drop stop
  else throw .bounds

end Lists

section Ranges

variable {word : Word} {a b : Int} {count : Nat}

theorem exact_eq {value : Int} (holds : word.Holds value) : exact word value = pure value := by
  rw [exact, if_pos holds]

theorem add_eq (holds : word.Holds (a + b)) : add word a b = pure (a + b) := exact_eq holds

theorem sub_eq (holds : word.Holds (a - b)) : sub word a b = pure (a - b) := exact_eq holds

theorem mul_eq (holds : word.Holds (a * b)) : mul word a b = pure (a * b) := exact_eq holds

theorem neg_eq (holds : word.Holds (-a)) : neg word a = pure (-a) := exact_eq holds

/-- The least value has no opposite: one build stops, the other one keeps the value. -/
example : neg .i32 (-0x80000000) .checked = .error .overflow ∧
    neg .i32 (-0x80000000) .unchecked = .ok (-0x80000000) := ⟨rfl, rfl⟩

theorem abs_eq (holds : word.Holds a.natAbs) : abs word a = pure (a.natAbs : Int) := exact_eq holds

theorem amount_eq (small : count < word.bits) : amount word count = pure count := by
  rw [amount, if_pos small]

theorem shl_eq (small : count < word.bits) (holds : word.Holds (a * (2 ^ count : Nat))) :
    shl word a count = pure (a * (2 ^ count : Nat)) := by
  have value : a.shiftLeft count = a * (2 ^ count : Nat) := by
    rw [Int.natCast_pow]
    exact Int.shiftLeft_eq a count
  rw [shl, amount_eq small, pure_bind, value, exact_eq holds]

/-- A shift to the right brings a value nearer to zero, or to `-1`. -/
theorem shr_eq (small : count < word.bits) (holds : word.Holds a) :
    shr word a count = pure (a / (2 ^ count : Nat)) := by
  obtain ⟨low, high⟩ := holds
  have least := word.least_le
  have most := word.least_add_count_pos
  have divisor : (0 : Int) < (2 ^ count : Nat) := Int.natCast_pos.mpr (Nat.two_pow_pos count)
  have value : a.shiftRight count = a / (2 ^ count : Nat) := Int.shiftRight_eq_div_pow a count
  have result : word.Holds (a / (2 ^ count : Nat)) := by
    rcases Int.lt_or_le a 0 with negative | positive
    · have above : a ≤ a / (2 ^ count : Nat) := by
        apply Int.le_ediv_of_mul_le divisor
        have scaled := Int.mul_le_mul_of_nonpos_left (Int.le_of_lt negative) divisor
        rwa [Int.zero_add, Int.mul_one] at scaled
      have below := Int.ediv_neg_of_neg_of_pos negative divisor
      constructor <;> omega
    · have above := Int.ediv_nonneg positive (Int.le_of_lt divisor)
      have below := Int.ediv_le_self (2 ^ count : Nat) positive
      constructor <;> omega
  rw [shr, amount_eq small, pure_bind, value, exact_eq result]

theorem div_eq (divisor : b ≠ 0) (holds : word.Holds (a.tdiv b)) : div word a b = pure (a.tdiv b) :=
  if_pos ⟨divisor, holds⟩

end Ranges

section Bounds

variable {α : Type} {list : List α}

theorem item_eq {index : Nat} {value : α} (found : list[index]? = some value) :
    item list index = pure value := by
  rw [item, found]

theorem slice_eq {start stop : Nat} (order : start ≤ stop) (bound : stop ≤ list.length) :
    slice list start stop = pure ((list.take stop).drop start) := if_pos ⟨order, bound⟩

theorem fill_eq {start stop : Nat} {items : List α} (order : start ≤ stop) (bound : stop ≤ list.length)
    (size : items.length = stop - start) :
    fill list start stop items = pure (list.take start ++ items ++ list.drop stop) :=
  if_pos ⟨order, bound, size⟩

end Bounds
end Machine
end Rotorcraft
