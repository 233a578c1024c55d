import Rotorcraft.Json.Token

/-! # Digits read back

A number is written by its digits, in base 16 by the texts of identifiers and words and in base 10 by
the numbers of a JSON text. Either way the digits, read one after the other, give the number again.
-/

namespace Rotorcraft

/-- What is written of a number are digits of its base. -/
theorem exists_digit_of_mem_toDigits {base number : Nat} (large : 1 < base) {c : Char}
    (mem : c ∈ Nat.toDigits base number) : ∃ digit < base, c = Nat.digitChar digit := by
  induction number using Nat.strongRecOn with
  | ind number ih =>
    rw [Nat.toDigits_eq_if large] at mem
    split at mem
    · next small => exact ⟨number, small, List.mem_singleton.mp mem⟩
    · next wide =>
      rcases List.mem_append.mp mem with front | last
      · exact ih (number / base) (Nat.div_lt_self (by omega) large) front
      · exact ⟨number % base, Nat.mod_lt _ (by omega), List.mem_singleton.mp last⟩

namespace Text

theorem hexDigit?_digitChar (digit : Fin 16) : hexDigit? (Nat.digitChar digit.val) = some digit := by
  revert digit
  decide

theorem ofHexDigits_append (digits : List (Fin 16)) (last : Fin 16) :
    ofHexDigits (digits ++ [last]) = 16 * ofHexDigits digits + last.val := by
  rw [ofHexDigits, List.foldl_append]
  rfl

private theorem mapM_hexDigit?_toDigits (number : Nat) :
    ∃ digits, (Nat.toDigits 16 number).mapM hexDigit? = some digits ∧ ofHexDigits digits = number := by
  induction number using Nat.strongRecOn with
  | ind number ih =>
    rw [Nat.toDigits_eq_if (by decide)]
    split
    · next small =>
      refine ⟨[⟨number, small⟩], ?_, ?_⟩
      · rw [List.mapM_cons, hexDigit?_digitChar ⟨number, small⟩]
        rfl
      · simp [ofHexDigits]
    · next wide =>
      obtain ⟨digits, front, denoted⟩ := ih (number / 16) (by omega)
      have last := hexDigit?_digitChar ⟨number % 16, by omega⟩
      refine ⟨digits ++ [⟨number % 16, by omega⟩], ?_, ?_⟩
      · rw [List.mapM_append, front, List.mapM_cons, last]
        rfl
      · rw [ofHexDigits_append, denoted]
        exact Nat.div_add_mod number 16

theorem readHex?_toDigits (number : Nat) : readHex? (Nat.toDigits 16 number) = some number := by
  obtain ⟨digits, mapped, denoted⟩ := mapM_hexDigit?_toDigits number
  have nonempty : (Nat.toDigits 16 number).isEmpty = false :=
    List.isEmpty_eq_false_iff.mpr Nat.toDigits_ne_nil
  rw [readHex?, nonempty, mapped]
  exact congrArg some denoted

theorem toList_hexPadded_one (number : Nat) :
    (hexPadded 1 number).toList = Nat.toDigits 16 number := by
  have width : 1 - (Nat.toDigits 16 number).length = 0 := by
    have positive := Nat.length_toDigits_pos (b := 16) (n := number)
    omega
  rw [hexPadded, width]
  exact String.toList_ofList

end Text

namespace Json

/-- Whether a text begins with a digit, of which a number before it would be made longer. -/
def beginsWithDigit (text : List Char) : Bool :=
  text.head?.any isDigit

theorem isDigit_digitChar {digit : Nat} (small : digit < 10) :
    isDigit (Nat.digitChar digit) = true := by
  have all : ∀ digit : Fin 10, isDigit (Nat.digitChar digit.val) = true := by decide
  exact all ⟨digit, small⟩

theorem isDigit_of_mem_toDigits {number : Nat} {c : Char} (mem : c ∈ Nat.toDigits 10 number) :
    isDigit c = true := by
  obtain ⟨digit, small, rfl⟩ := exists_digit_of_mem_toDigits (by decide) mem
  exact isDigit_digitChar small

theorem ofDigits_toDigits (number : Nat) : ofDigits (Nat.toDigits 10 number) = number :=
  Nat.ofDigitChars_ten_toDigits

/-- The digits of a number are read up to the first character that is none. -/
theorem scanDigits_toDigits (number : Nat) {rest : List Char} (ends : beginsWithDigit rest = false) :
    scanDigits (Nat.toDigits 10 number ++ rest) = some (Nat.toDigits 10 number, rest) := by
  have digits : ∀ c ∈ Nat.toDigits 10 number, isDigit c = true := fun _ => isDigit_of_mem_toDigits
  have taken : rest.takeWhile isDigit = [] ∧ rest.dropWhile isDigit = rest := by
    cases rest with
    | nil => exact ⟨rfl, rfl⟩
    | cons c rest =>
      have other : isDigit c = false := by simpa [beginsWithDigit] using ends
      simp [other]
  have nonempty := Nat.toDigits_ne_nil (n := number) (b := 10)
  rw [scanDigits, List.takeWhile_append_of_pos digits, List.dropWhile_append_of_pos digits, taken.1,
    taken.2, List.append_nil]
  simp [nonempty]

theorem toDigits_eq_zero_cons {number : Nat} {rest : List Char}
    (written : Nat.toDigits 10 number = '0' :: rest) : rest = [] := by
  induction number using Nat.strongRecOn generalizing rest with
  | ind number ih =>
    rw [Nat.toDigits_eq_if (by decide)] at written
    split at written
    · exact (List.cons.inj written).2.symm
    · next wide =>
      -- The leading zero would already lead the digits before the last one.
      cases front : Nat.toDigits 10 (number / 10) with
      | nil => exact absurd front Nat.toDigits_ne_nil
      | cons c others =>
        rw [front, List.cons_append] at written
        obtain ⟨rfl, _⟩ := List.cons.inj written
        obtain rfl := ih (number / 10) (by omega) front
        have value := congrArg ofDigits front
        rw [ofDigits_toDigits] at value
        have zero : ofDigits ['0'] = 0 := by decide
        omega

/-- An integer part is read up to the first character that is no digit. -/
theorem scanInteger_toDigits (number : Nat) {rest : List Char}
    (ends : beginsWithDigit rest = false) :
    scanInteger (Nat.toDigits 10 number ++ rest) = some (Nat.toDigits 10 number, rest) := by
  have scanned := scanDigits_toDigits number ends
  cases written : Nat.toDigits 10 number with
  | nil => exact absurd written Nat.toDigits_ne_nil
  | cons c others =>
    rw [written] at scanned
    by_cases zero : c = '0'
    · subst zero
      obtain rfl := toDigits_eq_zero_cons written
      rfl
    · rw [List.cons_append, scanInteger]
      · exact scanned
      · intro others' same
        exact zero (List.cons.inj same).1

end Json
end Rotorcraft
