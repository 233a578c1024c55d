import Mathlib.Algebra.Group.Even
import Mathlib.Data.Nat.Digits.Defs
import Rotorcraft.Proofs.Copies

/-! # Copies in place

A copy is written here as a program that overwrites its target unit by unit: it looks at the header and at both
lengths before it writes anything. What it returns and what it leaves in the target are told by the bytes of
the source and of the target alone, for every pair of them, and a payload that is wrapped in a counted buffer
arrives up to its last even byte.
-/

namespace Rotorcraft
namespace CountedBuffer

/-- A program that overwrites bytes of a buffer. -/
abbrev Overwriting : Type → Type :=
  StateM (List UInt8)

def overwrite (start : Nat) (bytes : List UInt8) : Overwriting Unit :=
  modify fun buffer => buffer.take start ++ bytes ++ buffer.drop (start + bytes.length)

def overwriteWords (payload : List UInt8) : Nat → Overwriting Unit
  | 0 => return ()
  | count + 1 => do
    overwriteWords payload count
    overwrite (count * 4) ((payload.take (count * 4 + 4)).drop (count * 4))

/-- Overwrites the words that are counted and that both sides have, and then half a word. -/
def overwriteUnits (payload : List UInt8) (words residual : Nat) : Overwriting Unit := do
  let buffer ← get
  overwriteWords payload (min words (min (buffer.length / 4) (payload.length / 4)))
  if residual ≠ 0 then overwrite (words * 4) ((payload.take (words * 4 + 2)).drop (words * 4))

/-- The counted copy into a buffer; it returns how many bytes it has written, or why it has written none. -/
def copyInto (source : List UInt8) : Overwriting (Except CopyError Nat) := do
  match payloadLength source with
  | .error error => return .error error
  | .ok length =>
    if length = 0 then return .ok 0
    let words := length >>> 2
    let residual := length &&& 2
    let needed := (words <<< 2) + residual
    let payload := source.drop 4
    if payload.length < needed then return .error (.sourceTruncated needed payload.length)
    let buffer ← get
    if buffer.length < needed then return .error (.destinationTooSmall needed buffer.length)
    overwriteUnits payload words residual
    return .ok needed

/-- A piece of the payload goes to the place that it has in the payload. -/
theorem run_overwrite_piece {payload : List UInt8} (target : List UInt8) {start stop : Nat}
    (order : start ≤ stop) (sent : stop ≤ payload.length) :
    (overwrite start ((payload.take stop).drop start)).run (payload.take start ++ target.drop start) =
      ((), payload.take stop ++ target.drop stop) := by
  have size : start + ((payload.take stop).drop start).length = stop := by
    rw [List.length_drop, List.length_take_of_le sent, Nat.add_sub_cancel' order]
  change ((), _ ++ (payload.take stop).drop start ++ List.drop (start + _) _) = _
  rw [size, append_piece order sent]

theorem run_overwriteWords {payload : List UInt8} (target : List UInt8) {count : Nat}
    (sent : count * 4 ≤ payload.length) :
    (overwriteWords payload count).run target =
      ((), payload.take (count * 4) ++ target.drop (count * 4)) := by
  induction count with
  | zero => rfl
  | succ count ih =>
    rw [Nat.succ_mul] at sent ⊢
    rw [overwriteWords, StateT.run_bind, ih (by omega)]
    exact run_overwrite_piece target (by omega) sent

/-- Words and half a word that both sides have room for are written as one block. -/
theorem run_overwriteUnits {payload target : List UInt8} {length : Nat}
    (sent : evenPart length ≤ payload.length) (room : evenPart length ≤ target.length) :
    (overwriteUnits payload (length / 4) (length &&& 2)).run target =
      ((), payload.take (evenPart length) ++ target.drop (evenPart length)) := by
  rw [evenPart] at sent room ⊢
  have chunks : min (length / 4) (min (target.length / 4) (payload.length / 4)) = length / 4 := by omega
  have words : (overwriteWords payload (length / 4)).run target = _ :=
    run_overwriteWords target (by omega)
  rw [overwriteUnits, StateT.run_bind]
  change ((overwriteWords payload (min (length / 4) (min (target.length / 4) (payload.length / 4))) >>=
    fun _ => _).run target) = _
  rw [chunks, StateT.run_bind, words, and_two]
  rcases Nat.mod_two_eq_zero_or_one (length / 2) with even | odd
  · have whole : length / 2 * 2 = length / 4 * 4 := by omega
    rw [even, whole]
    rfl
  · have whole : length / 2 * 2 = length / 4 * 4 + 2 := by omega
    rw [odd, whole]
    exact run_overwrite_piece target (by omega) (by omega)

/-- The length that the first four bytes announce, the least significant first. -/
def announced (source : List UInt8) : Nat :=
  Nat.ofDigits 0x100 ((source.take 4).map UInt8.toNat)

theorem header?_eq (source : List UInt8) : header? source =
    if source.length < 4 then none else some (announced source, source.drop 4) := by
  match source with
  | [] | [_] | [_, _] | [_, _, _] => rfl
  | b0 :: b1 :: b2 :: b3 :: payload =>
    have value : ofLittleEndian b0 b1 b2 b3 = announced (b0 :: b1 :: b2 :: b3 :: payload) := by
      simp only [announced, ofLittleEndian, List.take_succ_cons, List.take_zero, List.map_cons, List.map_nil,
        Nat.ofDigits_cons, Nat.ofDigits_nil]
      omega
    rw [header?, value, if_neg (by simp)]
    rfl

/-- The words and the half word that are counted are the even part of a length. -/
theorem shiftRight_shiftLeft_add_and (length : Nat) :
    (length >>> 2) <<< 2 + (length &&& 2) = evenPart length := by
  rw [Nat.shiftLeft_eq, Nat.shiftRight_eq_div_pow, and_two, evenPart]
  omega

/-- What a copy returns and what it leaves in its target: it fails for want of a header, of payload or of room,
in this order, and leaves the target as it was; otherwise it moves the even part of what is announced as one
block. -/
def outcome (source target : List UInt8) : Except CopyError Nat × List UInt8 :=
  let sent := evenPart (announced source)
  if source.length < 4 then (.error (.missingHeader source.length), target)
  else if source.length - 4 < sent then (.error (.sourceTruncated sent (source.length - 4)), target)
  else if target.length < sent then (.error (.destinationTooSmall sent target.length), target)
  else (.ok sent, (source.drop 4).take sent ++ target.drop sent)

theorem run_copyInto (source target : List UInt8) : (copyInto source).run target = outcome source target := by
  rw [copyInto, outcome, payloadLength, header?_eq]
  by_cases short : source.length < 4
  · simp only [if_pos short]
    rfl
  simp only [if_neg short, shiftRight_shiftLeft_add_and, List.length_drop]
  by_cases empty : announced source = 0
  · rw [if_pos empty, empty]
    rfl
  rw [if_neg empty]
  by_cases truncated : source.length - 4 < evenPart (announced source)
  · rw [if_pos truncated, if_pos truncated]
    rfl
  rw [if_neg truncated, if_neg truncated, StateT.run_bind]
  change StateT.run (if target.length < evenPart (announced source) then _ else _) target = _
  by_cases small : target.length < evenPart (announced source)
  · rw [if_pos small, if_pos small]
    rfl
  · have sent : evenPart (announced source) ≤ (source.drop 4).length := by
      rw [List.length_drop]
      omega
    rw [if_neg small, if_neg small, Nat.shiftRight_eq_div_pow, StateT.run_bind,
      run_overwriteUnits sent (by omega)]
    rfl

/-- A copy gives its outcome, but no target if it fails. -/
theorem copy_eq_outcome (source target : List UInt8) : copy source target =
    (outcome source target).1.map fun copied => (copied, (outcome source target).2) := by
  rw [copy_eq, outcome, header?_eq]
  by_cases short : source.length < 4
  · simp only [if_pos short]
    rfl
  · simp only [if_neg short, List.length_drop]
    split_ifs <;> rfl

/-- The longest front part of a list with an even number of items. -/
structure LongestEvenPrefix (part list : List UInt8) : Prop where
  front : part <+: list
  even : Even part.length
  longest : ∀ other : List UInt8, other <+: list → Even other.length → other <+: part

/-- The four bytes of a header announce what was written to them. -/
theorem announced_littleEndian {number : Nat} (small : number < 0x100000000) (payload : List UInt8) :
    announced (littleEndian number ++ payload) = number := by
  simp only [announced, littleEndian, List.cons_append, List.nil_append, List.take_succ_cons, List.take_zero,
    List.map_cons, List.map_nil, Nat.ofDigits_cons, Nat.ofDigits_nil, UInt8.toNat_ofNat']
  omega

theorem even_evenPart (length : Nat) : Even (evenPart length) :=
  ⟨length / 2, Nat.mul_two _⟩

theorem evenPart_of_even {length : Nat} (even : Even length) : evenPart length = length := by
  obtain ⟨half, rfl⟩ := even
  rw [evenPart]
  omega

theorem longestEvenPrefix_take (list : List UInt8) :
    LongestEvenPrefix (list.take (evenPart list.length)) list where
  front := List.take_prefix _ _
  even := by
    rw [List.length_take_of_le (evenPart_le _)]
    exact even_evenPart _
  longest := by
    intro other front even
    apply List.prefix_take_iff.mpr
    refine ⟨front, ?_⟩
    have shorter := front.length_le
    rw [← evenPart_of_even even, evenPart, evenPart]
    omega

/-- What a copy returns and leaves in its target, and why it fails, in terms of the bytes alone. A wrapped
payload arrives up to its last even byte, whatever follows it. -/
theorem copies_in_place (source target : List UInt8) :
    (copyInto source).run target = outcome source target ∧
      (copy source target =
        (outcome source target).1.map fun copied => (copied, (outcome source target).2)) ∧
      ∀ payload rest : List UInt8, payload.length < 0x100000000 → evenPart payload.length ≤ target.length →
        ∃ part, LongestEvenPrefix part payload ∧ (Even payload.length → part = payload) ∧
          (copyInto (wrap payload ++ rest)).run target =
            (.ok part.length, part ++ target.drop part.length) := by
  refine ⟨run_copyInto source target, copy_eq_outcome source target, ?_⟩
  intro payload rest small room
  have within := evenPart_le payload.length
  refine ⟨payload.take (evenPart payload.length), longestEvenPrefix_take payload, ?_, ?_⟩
  · intro even
    rw [evenPart_of_even even, List.take_length]
  · have header : announced (wrap payload ++ rest) = payload.length := by
      rw [wrap, List.append_assoc, announced_littleEndian small]
    have bytes : (wrap payload ++ rest).length = payload.length + rest.length + 4 := by
      rw [wrap, List.length_append, List.length_append]
      simp only [littleEndian, List.length_cons, List.length_nil]
      omega
    have behind : (wrap payload ++ rest).drop 4 = payload ++ rest := rfl
    simp only [run_copyInto, outcome, header]
    rw [if_neg (by omega), if_neg (by omega), if_neg (by omega), behind,
      List.take_append_of_le_length within, List.length_take_of_le within]

/-- Seven bytes with two more behind them: a word and half a word arrive. -/
theorem copies_odd_in_place :
    let payload : List UInt8 := [1, 2, 3, 4, 5, 6, 7]
    let target : List UInt8 := [10, 11, 12, 13, 14, 15, 16, 17, 18]
    let source := wrap payload ++ [8, 9]
    (copyInto source).run target = (.ok 6, [1, 2, 3, 4, 5, 6, 16, 17, 18]) ∧
      ∃ part, LongestEvenPrefix part payload ∧ (Even payload.length → part = payload) ∧
        (copyInto source).run target = (.ok part.length, part ++ target.drop part.length) := by
  constructor
  · rfl
  · exact (copies_in_place (wrap [1, 2, 3, 4, 5, 6, 7]) _).2.2 _ [8, 9] (by decide) (by decide)

end CountedBuffer
end Rotorcraft
