import Mathlib.Data.Nat.Bitwise
import Mathlib.Tactic.SplitIfs
import Rotorcraft.CountedBuffer

/-! # Copies as wholes

A copy moves units, but what it does can be told at once: it writes the even part of the payload over the
front of its target, or it finds that one of the two is too short and does nothing.
-/

namespace Rotorcraft
namespace CountedBuffer

/-- The bytes of a payload that belong to whole units. -/
def evenPart (length : Nat) : Nat :=
  length / 2 * 2

theorem evenPart_le (length : Nat) : evenPart length ≤ length := Nat.div_mul_le_self length 2

/-- The second bit of a length tells whether half a word is left. -/
theorem and_two (length : Nat) : length &&& 2 = length / 2 % 2 * 2 := by
  have bit := Nat.and_two_pow length 1
  rw [Nat.toNat_testBit] at bit
  exact bit

theorem header?_lt {source payload : List UInt8} {length : Nat}
    (found : header? source = some (length, payload)) : length < 0x100000000 := by
  unfold header? at found
  split at found
  · next b0 b1 b2 b3 payload =>
    obtain ⟨rfl, _⟩ := Prod.mk.inj (Option.some.inj found)
    have first := b0.toNat_lt
    have second := b1.toNat_lt
    have third := b2.toNat_lt
    have fourth := b3.toNat_lt
    simp only [ofLittleEndian]
    omega
  · cases found

/-- A piece of a payload that goes to where it was extends the part that has been moved. -/
theorem append_piece {payload target : List UInt8} {start stop : Nat} (order : start ≤ stop)
    (sent : stop ≤ payload.length) :
    (payload.take start ++ target.drop start).take start ++ (payload.take stop).drop start ++
        (payload.take start ++ target.drop start).drop stop = payload.take stop ++ target.drop stop := by
  have front : (payload.take start).length = start := List.length_take_of_le (by omega)
  have before : payload.take start ++ (payload.take stop).drop start = payload.take stop := by
    have shorter : payload.take start = (payload.take stop).take start := by
      rw [List.take_take, Nat.min_eq_left order]
    rw [shorter, List.take_append_drop]
  have behind : (payload.take start ++ target.drop start).drop stop = target.drop stop := by
    rw [List.drop_append, List.drop_of_length_le (by omega), List.nil_append, List.drop_drop, front,
      Nat.add_sub_cancel' order]
  rw [List.take_left' front, before, behind]

/-- Units that fit are moved as one block. -/
theorem moveUnits_eq (moved : Nat) {count : Nat} {half : Bool} {payload target : List UInt8}
    (size : moved = count * 4 + half.toNat * 2) (sent : moved ≤ payload.length)
    (room : moved ≤ target.length) :
    moveUnits count half payload target = payload.take moved ++ target.drop moved := by
  induction count generalizing payload target moved with
  | zero =>
    cases half with
    | false =>
      obtain rfl : moved = 0 := by simpa using size
      rfl
    | true =>
      obtain rfl : moved = 2 := by simpa using size
      match payload, target, sent, room with
      | a :: b :: payload, c :: d :: target, _, _ => rfl
  | succ count ih =>
    obtain ⟨rest, rfl⟩ : ∃ rest, moved = rest + 4 := ⟨moved - 4, by omega⟩
    match payload, target, sent, room with
    | a :: b :: c :: d :: payload, e :: f :: g :: h :: target, sent, room =>
      simp only [List.length_cons] at sent room
      rw [moveUnits, ih rest (by omega) (by omega) (by omega)]
      rfl

/-- A copy writes the even part of a payload over the front of its target, if both have room for it. -/
theorem copy_eq (source target : List UInt8) : copy source target =
    match header? source with
    | none => .error (.missingHeader source.length)
    | some (length, payload) =>
      if payload.length < evenPart length then
        .error (.sourceTruncated (evenPart length) payload.length)
      else if target.length < evenPart length then
        .error (.destinationTooSmall (evenPart length) target.length)
      else
        .ok (evenPart length, payload.take (evenPart length) ++ target.drop (evenPart length)) := by
  rw [copy]
  cases header? source with
  | none => rfl
  | some found =>
    obtain ⟨length, payload⟩ := found
    have needed : length / 4 * 4 + length % 4 / 2 * 2 = evenPart length := by
      rw [evenPart]
      omega
    have half : (length % 4 / 2 == 1).toNat = length % 4 / 2 := by
      have range : length % 4 / 2 = 0 ∨ length % 4 / 2 = 1 := by omega
      rcases range with none | one
      · rw [none]
        rfl
      · rw [one]
        rfl
    simp only [needed]
    by_cases empty : length = 0
    · subst empty
      simp [evenPart]
    · rw [if_neg empty]
      split_ifs with truncated small
      · rfl
      · rfl
      · rw [moveUnits_eq (evenPart length) (by rw [half, needed]) (by omega) (by omega)]

theorem copy_eq_ok_iff {source target path : List UInt8} {copied : Nat} :
    copy source target = .ok (copied, path) ↔
      ∃ length payload, header? source = some (length, payload) ∧ evenPart length ≤ payload.length ∧
        evenPart length ≤ target.length ∧ copied = evenPart length ∧
        path = payload.take copied ++ target.drop copied := by
  rw [copy_eq]
  cases header? source with
  | none =>
    constructor
    · rintro ⟨⟩
    · rintro ⟨_, _, ⟨⟩, _⟩
  | some found =>
    obtain ⟨length, payload⟩ := found
    constructor
    · intro success
      simp only at success
      split_ifs at success with truncated small
      cases success
      exact ⟨length, payload, rfl, by omega, by omega, rfl, rfl⟩
    · rintro ⟨_, _, ⟨⟩, sent, room, rfl, rfl⟩
      simp only
      rw [if_neg (by omega), if_neg (by omega)]

theorem toNat_copied {source target path : List UInt8} {copied : Nat}
    (success : copy source target = .ok (copied, path)) : (UInt64.ofNat copied).toNat = copied := by
  obtain ⟨length, payload, found, _, _, rfl, _⟩ := copy_eq_ok_iff.mp success
  have bound := header?_lt found
  have even := evenPart_le length
  exact UInt64.toNat_ofNat_of_lt' (Nat.lt_trans (Nat.lt_of_le_of_lt even bound) (by decide))

end CountedBuffer
end Rotorcraft
