import Mathlib.Tactic.SplitIfs
import Rotorcraft.Json.Printer
import Rotorcraft.Proofs.Digits

/-! # Cutting written texts into tokens

What is written for a value is cut into the tokens of the value again, whatever its layout. Strings end
at their closing quote, since quotes inside them are escaped. Numbers have no end of their own, so what
follows one must not carry it on; a written value is followed by a separator, a line end or nothing.
-/

namespace Rotorcraft.Json

/-- A text is read as one token if `rest` follows it. -/
def Scans (text rest : List Char) (token : Token) : Prop :=
  ∃ c printed, text = c :: printed ∧ isSpace c = false ∧ scan c (printed ++ rest) = some (token, rest)

/-- A unit that stands for a character wherever it is in a string. -/
def LiteralUnit.Denotes (unit : LiteralUnit) (c : Char) : Prop :=
  ∀ units, textOfUnits? (unit :: units) = (textOfUnits? units).map (c :: ·)

theorem LiteralUnit.Denotes.char (c : Char) : (LiteralUnit.char c).Denotes c := fun _ => rfl

/-- A number below the surrogates stands for the character that it numbers. -/
theorem LiteralUnit.Denotes.code {word : Nat} (low : word < 0xD800) :
    (LiteralUnit.code word).Denotes (Char.ofNat word) := by
  have notHigh : isHighSurrogate word = false := by
    simp only [isHighSurrogate, Bool.and_eq_false_iff, decide_eq_false_iff_not]
    omega
  have notLow : isLowSurrogate word = false := by
    simp only [isLowSurrogate, Bool.and_eq_false_iff, decide_eq_false_iff_not]
    omega
  intro units
  match units with
  | [] => simp [textOfUnits?, notHigh, notLow]
  | .char c :: units => simp [textOfUnits?, notHigh, notLow]
  | .code next :: units => rw [textOfUnits?, notHigh, notLow]; rfl

/-- A text that is read as one unit of a string, whatever follows. -/
def SpellsUnit (text : List Char) (unit : LiteralUnit) : Prop :=
  ∀ rest, scanUnits (text ++ rest) = (scanUnits rest).map fun (units, rest) => (unit :: units, rest)

/-- A character that needs no escape spells itself. -/
theorem spellsUnit_self {c : Char} (notQuote : c ≠ '"') (notEscape : c ≠ '\\')
    (visible : ¬c.toNat < 0x20) : SpellsUnit [c] (.char c) := by
  intro rest
  rw [List.singleton_append, scanUnits]
  · rw [if_neg visible]
    cases scanUnits rest <;> rfl
  · exact fun same => notQuote same
  · exact fun _ _ _ _ _ same _ => notEscape same
  · exact fun _ _ same _ => notEscape same

theorem spellsUnit_letter {letter c : Char} (notCode : letter ≠ 'u') (found : escaped? letter = some c) :
    SpellsUnit ['\\', letter] (.char c) := by
  intro rest
  rw [List.cons_append, List.singleton_append, scanUnits]
  · rw [found]
    cases scanUnits rest <;> rfl
  · exact fun _ _ _ _ _ same _ => notCode same

/-- Four digits spell the number that they denote. -/
theorem spellsUnit_code {word : Nat} {a b c d : Char} (read : Text.readHex? [a, b, c, d] = some word) :
    SpellsUnit ['\\', 'u', a, b, c, d] (.code word) := by
  intro rest
  show scanUnits ('\\' :: 'u' :: a :: b :: c :: d :: rest) = _
  rw [scanUnits, read]
  cases scanUnits rest <;> rfl

/-- What is written for a character is read as one unit that stands for it. -/
theorem escape_spells (c : Char) : ∃ unit : LiteralUnit, SpellsUnit (escape c) unit ∧ unit.Denotes c := by
  unfold escape
  split_ifs with quote backslash backspace tab newline formFeed carriageReturn control
  -- Seven characters have an escape of one letter.
  any_goals
    subst c
    exact ⟨_, spellsUnit_letter (by decide) rfl, .char _⟩
  · have word : Text.readHex? ['0', '0', Nat.digitChar (c.toNat / 16), Nat.digitChar (c.toNat % 16)] =
        some c.toNat := by
      have high := Text.hexDigit?_digitChar ⟨c.toNat / 16, by omega⟩
      have low := Text.hexDigit?_digitChar ⟨c.toNat % 16, by omega⟩
      have zero : Text.hexDigit? '0' = some 0 := by decide
      have value : 16 * (16 * (16 * (16 * 0 + 0) + 0) + c.toNat / 16) + c.toNat % 16 = c.toNat := by omega
      simp only [Text.readHex?, List.isEmpty_cons, List.mapM_cons, zero, high, low]
      exact congrArg some value
    have denotes := @LiteralUnit.Denotes.code c.toNat (by omega)
    rw [Char.ofNat_toNat] at denotes
    exact ⟨_, spellsUnit_code word, denotes⟩
  · exact ⟨_, spellsUnit_self quote backslash control, .char c⟩

/-- A written string is read up to its closing quote, as units that denote it. -/
theorem scanUnits_flatMap_escape (text rest : List Char) :
    ∃ units, scanUnits (text.flatMap escape ++ '"' :: rest) = some (units, rest) ∧
      textOfUnits? units = some text := by
  induction text with
  | nil => exact ⟨[], rfl, rfl⟩
  | cons c text ih =>
    obtain ⟨units, scanned, denoted⟩ := ih
    obtain ⟨unit, spelled, stands⟩ := escape_spells c
    refine ⟨unit :: units, ?_, ?_⟩
    · rw [List.flatMap_cons, List.append_assoc, spelled, scanned]
      rfl
    · rw [stands, denoted]
      rfl

theorem scanString_of_units {text rest : List Char} {units : List LiteralUnit}
    (scanned : scanUnits text = some (units, rest)) :
    scanString text = some ((textOfUnits? units).map String.ofList, rest) := by
  rw [scanString, scanned]
  rfl

theorem scan_quote (text : List Char) :
    scan '"' text = (scanString text).map fun (text, rest) => (.string text, rest) := rfl

theorem scans_quoted (text : Option String) (rest : List Char) :
    Scans (quoted text) rest (.string text) := by
  cases text with
  | none =>
    have half : Text.readHex? ['d', '8', '0', '0'] = some 0xD800 := by decide
    have scanned : scanUnits (['\\', 'u', 'd', '8', '0', '0'] ++ '"' :: rest) =
        some ([.code 0xD800], rest) := spellsUnit_code half _
    refine ⟨'"', ['\\', 'u', 'd', '8', '0', '0', '"'], rfl, by decide, ?_⟩
    rw [scan_quote]
    exact congrArg (Option.map _) (scanString_of_units scanned)
  | some text =>
    obtain ⟨units, scanned, denoted⟩ := scanUnits_flatMap_escape text.toList rest
    have read := scanString_of_units scanned
    rw [denoted, Option.map_some, String.ofList_toList] at read
    refine ⟨'"', text.toList.flatMap escape ++ ['"'], rfl, by decide, ?_⟩
    rw [List.append_assoc, List.singleton_append, scan_quote, read]
    rfl

/-- Whether a number right before a text would be carried on by it. -/
def carriesOn (text : List Char) : Bool :=
  text.head?.any fun c => isDigit c || c == '.' || c == 'e' || c == 'E'

theorem beginsWithDigit_of_carriesOn {text : List Char} (ends : carriesOn text = false) :
    beginsWithDigit text = false := by
  cases text with
  | nil => rfl
  | cons c text =>
    simp only [carriesOn, List.head?_cons, Option.any_some, Bool.or_eq_false_iff] at ends
    simpa [beginsWithDigit] using ends.1.1.1

theorem scanFraction_of_carriesOn {text : List Char} (ends : carriesOn text = false) :
    scanFraction text = some (none, text) := by
  unfold scanFraction
  split
  · next rest => exact absurd ends (by simp [carriesOn])
  · rfl

theorem scanExponent_of_carriesOn {text : List Char} (ends : carriesOn text = false) :
    scanExponent text = some (none, text) := by
  unfold scanExponent
  split
  · next rest => exact absurd ends (by simp [carriesOn])
  · next rest => exact absurd ends (by simp [carriesOn])
  · rfl

/-- The digits of a number are read as an integer of their sign. -/
theorem scanNumber_toDigits (negative : Bool) (number : Nat) {rest : List Char}
    (ends : carriesOn rest = false) : scanNumber negative (Nat.toDigits 10 number ++ rest) =
      some (.number (numberOf negative (Nat.toDigits 10 number) none none), rest) := by
  rw [scanNumber, scanInteger_toDigits number (beginsWithDigit_of_carriesOn ends)]
  show (scanFraction rest).bind _ = _
  rw [scanFraction_of_carriesOn ends]
  show (scanExponent rest).bind _ = _
  rw [scanExponent_of_carriesOn ends]
  rfl

theorem scanPower_toDigits (negative : Bool) (power : Nat) {rest : List Char}
    (ends : beginsWithDigit rest = false) : scanPower negative (Nat.toDigits 10 power ++ rest) =
      some (some (if negative then -(power : Int) else power), rest) := by
  rw [scanPower, scanDigits_toDigits power ends]
  simp only [Option.map_some, ofDigits_toDigits]

theorem scanSignedPower_digit {c : Char} (digit : isDigit c = true) (text : List Char) :
    scanSignedPower (c :: text) = scanPower false (c :: text) := by
  rw [scanSignedPower]
  · rintro rest same
    obtain ⟨rfl, _⟩ := List.cons.inj same
    exact absurd digit (by decide)
  · rintro rest same
    obtain ⟨rfl, _⟩ := List.cons.inj same
    exact absurd digit (by decide)

theorem exists_toDigits_eq_cons (number : Nat) :
    ∃ c others, Nat.toDigits 10 number = c :: others ∧ isDigit c = true := by
  cases written : Nat.toDigits 10 number with
  | nil => exact absurd written Nat.toDigits_ne_nil
  | cons c others =>
    have mem : c ∈ Nat.toDigits 10 number := written ▸ List.mem_cons_self
    exact ⟨c, others, rfl, isDigit_of_mem_toDigits mem⟩

/-- A written exponent is read behind its mark. -/
theorem scanSignedPower_integerChars (power : Int) {rest : List Char}
    (ends : beginsWithDigit rest = false) :
    scanSignedPower (integerChars power ++ rest) = some (some power, rest) := by
  unfold integerChars
  split
  · next negative =>
    have value : -(power.natAbs : Int) = power := by omega
    rw [List.cons_append]
    show scanPower true (Nat.toDigits 10 power.natAbs ++ rest) = _
    rw [scanPower_toDigits true power.natAbs ends, if_pos rfl, value]
  · next positive =>
    have value : (power.natAbs : Int) = power := by omega
    obtain ⟨c, others, written, digit⟩ := exists_toDigits_eq_cons power.natAbs
    have scanned := scanPower_toDigits false power.natAbs ends
    rw [written, List.cons_append, if_neg Bool.false_ne_true, value] at scanned
    rw [written, List.cons_append, scanSignedPower_digit digit, scanned]

theorem scan_digit {c : Char} (digit : isDigit c = true) (rest : List Char) :
    scan c rest = scanNumber false (c :: rest) := by
  unfold scan
  split
  all_goals first
    | exact absurd digit (by decide)
    | exact if_pos digit

theorem isSpace_digit {c : Char} (digit : isDigit c = true) : isSpace c = false := by
  have notSpace : c ≠ ' ' ∧ c ≠ '\t' ∧ c ≠ '\n' ∧ c ≠ '\r' := by
    refine ⟨?_, ?_, ?_, ?_⟩ <;> rintro rfl <;> exact absurd digit (by decide)
  simp [isSpace, notSpace]

/-- What begins with the digits of a number is read as a number without a sign. -/
theorem scans_toDigits {number : Nat} {text rest : List Char} {token : Token}
    (scanned : scanNumber false (Nat.toDigits 10 number ++ text ++ rest) = some (token, rest)) :
    Scans (Nat.toDigits 10 number ++ text) rest token := by
  obtain ⟨c, others, written, digit⟩ := exists_toDigits_eq_cons number
  rw [written, List.cons_append] at scanned ⊢
  exact ⟨c, others ++ text, rfl, isSpace_digit digit, (scan_digit digit _).trans scanned⟩

theorem scans_int (value : Int) {rest : List Char} (ends : carriesOn rest = false) :
    Scans (integerChars value) rest (.number (.int value)) := by
  have digits := ofDigits_toDigits value.natAbs
  unfold integerChars
  split
  · next negative =>
    have scanned := scanNumber_toDigits true value.natAbs ends
    have number : numberOf true (Nat.toDigits 10 value.natAbs) none none = .int value := by
      have nonzero : value.natAbs ≠ 0 := by omega
      have same : -(value.natAbs : Int) = value := by omega
      simp only [numberOf, digits, nonzero, same, if_true, if_false]
    rw [number] at scanned
    exact ⟨'-', _, rfl, by decide, scanned⟩
  · next positive =>
    have scanned := scanNumber_toDigits false value.natAbs ends
    have number : numberOf false (Nat.toDigits 10 value.natAbs) none none = .int value := by
      have same : (value.natAbs : Int) = value := by omega
      simp only [numberOf, digits, same, Bool.false_eq_true, if_false]
    rw [number] at scanned
    have whole := @scans_toDigits value.natAbs [] rest _ (by rwa [List.append_nil])
    rwa [List.append_nil] at whole

theorem scans_real (digits : Nat) (exponent : Int) {rest : List Char}
    (ends : carriesOn rest = false) :
    Scans (numberChars (.real digits exponent)) rest (.number (.real digits exponent)) := by
  apply scans_toDigits
  have power := scanSignedPower_integerChars exponent (beginsWithDigit_of_carriesOn ends)
  have number : numberOf false (Nat.toDigits 10 digits) none (some exponent) =
      .real digits exponent := by
    simp [numberOf, ofDigits_toDigits]
  rw [List.append_assoc, List.cons_append, scanNumber, scanInteger_toDigits digits rfl]
  show (scanSignedPower (integerChars exponent ++ rest)).bind _ = _
  rw [power]
  exact congrArg (fun value => some (Token.number value, rest)) number

/-- A written number is read as itself if the text behind it does not carry it on. -/
theorem scans_number (number : JsonNumber) {rest : List Char} (ends : carriesOn rest = false) :
    Scans (numberChars number) rest (.number number) := by
  cases number with
  | int value => exact scans_int value ends
  | real digits exponent => exact scans_real digits exponent ends

end Rotorcraft.Json
