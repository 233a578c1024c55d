import Mathlib.Tactic.SplitIfs
import Rotorcraft.Actor

/-! # Control and status words, bit by bit

The engine changes the control word of an actor one flag at a time. Two words that differ at most
in the bits of a mask give the same answer about every flag outside it, the sub-mode included.
-/

namespace Rotorcraft

namespace ControlFlags

private theorem or_and_word (a m o : UInt16) : (a ||| m) &&& o = (a &&& o) ||| (m &&& o) := by
  apply UInt16.toBitVec_inj.mp
  ext index bound
  simp only [UInt16.toBitVec_and, UInt16.toBitVec_or, BitVec.getElem_and, BitVec.getElem_or]
  grind

private theorem and_not_and {m o : UInt16} (a : UInt16) (disjoint : m &&& o = 0) :
    a &&& ~~~m &&& o = a &&& o := by
  have bits : m.toBitVec &&& o.toBitVec = 0#16 := congrArg UInt16.toBitVec disjoint
  apply UInt16.toBitVec_inj.mp
  ext index bound
  have bit := congrArg (fun word => word[index]) bits
  simp only [UInt16.toBitVec_and, UInt16.toBitVec_not, BitVec.getElem_and, BitVec.getElem_not,
    BitVec.getElem_zero] at bit ⊢
  grind

private theorem and_or_word (a m : UInt16) : (a &&& m) ||| m = m := by
  apply UInt16.toBitVec_inj.mp
  ext index bound
  simp only [UInt16.toBitVec_and, UInt16.toBitVec_or, BitVec.getElem_and, BitVec.getElem_or]
  grind

/-- Setting a mask answers for its own bits only. -/
theorem intersects_insert (flags mask other : ControlFlags) :
    (flags.insert mask).intersects other = (flags.intersects other || mask.intersects other) := by
  rw [Bool.eq_iff_iff, Bool.or_eq_true]
  simp only [intersects, insert, or_and_word, bne_iff_ne, ne_eq, UInt16.or_eq_zero_iff]
  exact Classical.not_and_iff_not_or_not

theorem intersects_insert_self (flags : ControlFlags) {mask : ControlFlags} (used : mask.bits ≠ 0) :
    (flags.insert mask).intersects mask = true := by
  rw [intersects_insert, Bool.or_eq_true]
  right
  simpa only [intersects, UInt16.and_self, bne_iff_ne] using used

theorem intersects_remove_self (flags mask : ControlFlags) :
    (flags.remove mask).intersects mask = false := by
  simp [intersects, remove, UInt16.and_assoc]

theorem intersects_remove_of_clear {flags mask other : ControlFlags}
    (clear : flags.intersects other = false) : (flags.remove mask).intersects other = false := by
  have none : flags.bits &&& other.bits = 0 := by simpa [intersects] using clear
  have kept : flags.bits &&& ~~~mask.bits &&& other.bits = 0 := by
    rw [UInt16.and_assoc, UInt16.and_comm (~~~mask.bits), ← UInt16.and_assoc, none, UInt16.zero_and]
  simp [intersects, remove, kept]

theorem contains_insert_self (flags mask : ControlFlags) :
    (flags.insert mask).contains mask = true := by
  simp only [contains, insert, or_and_word, UInt16.and_self, and_or_word, beq_self_eq_true]

theorem insert_eq_self {flags mask : ControlFlags} (present : flags.contains mask = true) :
    flags.insert mask = flags := by
  have held : flags.bits &&& mask.bits = mask.bits := by simpa only [contains, beq_iff_eq] using present
  rw [insert, ← held, UInt16.or_comm, UInt16.and_comm, and_or_word]

theorem remove_eq_self {flags mask : ControlFlags} (absent : flags.intersects mask = false) :
    flags.remove mask = flags := by
  have none : mask.bits &&& flags.bits = 0 := by
    simpa [intersects, UInt16.and_comm] using absent
  have kept := and_not_and flags.bits none
  rw [UInt16.and_assoc, UInt16.and_comm (~~~mask.bits), ← UInt16.and_assoc, UInt16.and_self] at kept
  rw [remove, kept]

/-- Two words that differ at most in the bits of a mask. -/
def SameOutside (mask a b : ControlFlags) : Prop :=
  a.bits &&& ~~~mask.bits = b.bits &&& ~~~mask.bits

namespace SameOutside

variable {mask a b c : ControlFlags}

theorem refl (mask a : ControlFlags) : SameOutside mask a a := rfl

theorem trans (first : SameOutside mask a b) (second : SameOutside mask b c) :
    SameOutside mask a c := Eq.trans first second

theorem widen (same : SameOutside mask a b) {wider : ControlFlags}
    (covered : mask.bits &&& ~~~wider.bits = 0) : SameOutside wider a b := by
  unfold SameOutside at same ⊢
  rw [← and_not_and a.bits covered, ← and_not_and b.bits covered, same]

theorem insert (mask a : ControlFlags) : SameOutside mask (a.insert mask) a := by
  simp [SameOutside, ControlFlags.insert, or_and_word]

theorem remove (mask a : ControlFlags) : SameOutside mask (a.remove mask) a := by
  simp [SameOutside, ControlFlags.remove, UInt16.and_assoc]

theorem and_eq (same : SameOutside mask a b) {other : ControlFlags}
    (disjoint : mask.bits &&& other.bits = 0) : a.bits &&& other.bits = b.bits &&& other.bits := by
  rw [← and_not_and a.bits disjoint, ← and_not_and b.bits disjoint, same]

theorem intersects_eq (same : SameOutside mask a b) {other : ControlFlags}
    (disjoint : mask.bits &&& other.bits = 0) : a.intersects other = b.intersects other := by
  simp only [intersects, same.and_eq disjoint]

theorem contains_eq (same : SameOutside mask a b) {other : ControlFlags}
    (disjoint : mask.bits &&& other.bits = 0) : a.contains other = b.contains other := by
  simp only [contains, same.and_eq disjoint]

theorem subMode_eq (same : SameOutside mask a b) (disjoint : mask.bits &&& subModeField.bits = 0) :
    a.subMode = b.subMode := by
  simp only [subMode, same.and_eq disjoint]

theorem setSubMode (flags : ControlFlags) (value : UInt8) :
    SameOutside subModeField (flags.setSubMode value) flags := by
  have covered : (value.toUInt16 <<< 2) &&& subModeField.bits &&& ~~~subModeField.bits = 0 := by
    rw [UInt16.and_assoc, UInt16.and_not_self, UInt16.and_zero]
  exact ((insert _ _).widen covered).trans (remove _ _)

end SameOutside

/-- A sub-mode of two bits is stored without loss. -/
theorem subMode_setSubMode (flags : ControlFlags) {value : UInt8} (small : value ≤ 3) :
    (flags.setSubMode value).subMode = value := by
  have field : (flags.setSubMode value).bits &&& subModeField.bits =
      (value.toUInt16 <<< 2) &&& subModeField.bits := by
    simp [setSubMode, insert, remove, or_and_word, UInt16.and_assoc]
  rw [subMode, field]
  have bound := UInt8.le_iff_toNat_le.mp small
  have listed : value = 0 ∨ value = 1 ∨ value = 2 ∨ value = 3 := by
    simp only [← UInt8.toNat_inj, UInt8.reduceToNat] at bound ⊢
    omega
  rcases listed with rfl | rfl | rfl | rfl <;> rfl

end ControlFlags

theorem Actor.setFlag_eq_self {actor : Actor} {mask : ControlFlags}
    (present : actor.flags.contains mask = true) : actor.setFlag mask = actor := by
  rw [setFlag, ControlFlags.insert_eq_self present]

theorem Actor.clearFlag_eq_self {actor : Actor} {mask : ControlFlags}
    (absent : actor.hasFlag mask = false) : actor.clearFlag mask = actor := by
  rw [clearFlag, ControlFlags.remove_eq_self absent]

/-- What can be checked of eight selectors holds of every selector of three bits. -/
theorem StatusWord.forall_selector {P : UInt8 → Prop} (checked : ∀ index : Fin 8, P (UInt8.ofNat index.val))
    {selector : UInt8} (small : selector ≤ 7) : P selector := by
  have bound : selector.toNat ≤ 7 := UInt8.le_iff_toNat_le.mp small
  have case := checked ⟨selector.toNat, by omega⟩
  rwa [UInt8.ofNat_toNat] at case

/-- A selector of three bits survives the trip through its mode and a fresh status word. -/
theorem StatusWord.selector_setSelector {selector : UInt8} (small : selector ≤ 7) :
    (({} : StatusWord).setSelector (Mode.ofSelector selector).selector).selector = selector :=
  forall_selector (P := fun selector =>
    (({} : StatusWord).setSelector (Mode.ofSelector selector).selector).selector = selector) (by decide) small

theorem StatusWord.mode_eq_pursue_iff (status : StatusWord) :
    status.mode = .pursue ↔ status.selector = 1 := by
  simp only [mode, Mode.ofSelector]
  constructor
  · intro pursuing
    split_ifs at pursuing with _ one
    exact one
  · intro one
    rw [one]
    rfl

/-- The modes from four on are the ones that the dispatcher does not know. -/
theorem Mode.isFallback_iff {selector : UInt8} :
    (∃ other, Mode.ofSelector selector = .fallback other) ↔ 4 ≤ selector := by
  simp only [ofSelector, UInt8.le_iff_toNat_le, ← UInt8.toNat_inj, UInt8.reduceToNat]
  split_ifs with init pursue left right
  · simp [init]
  · simp [pursue]
  · simp [left]
  · simp [right]
  · simp only [fallback.injEq, exists_eq', true_iff]
    omega

theorem StatusWord.selector_le (status : StatusWord) : status.selector ≤ 7 := by
  have masked : status.word.toNat &&& 0x0700 ≤ 0x0700 := Nat.and_le_right
  rw [UInt8.le_iff_toNat_le]
  simp only [selector, selectorMask, UInt16.toNat_toUInt8, UInt16.toNat_shiftRight, UInt16.toNat_and]
  rw [show UInt16.toNat 0x0700 = 0x0700 from rfl, show UInt16.toNat 8 % 16 = 8 from rfl,
    Nat.shiftRight_eq_div_pow, show UInt8.toNat 7 = 7 from rfl]
  omega

end Rotorcraft
