import Mathlib.Data.List.TakeWhile
import Rotorcraft.ControlFlags.Text
import Rotorcraft.Identifier
import Rotorcraft.Proofs.ControlWord
import Rotorcraft.Proofs.Digits
import Rotorcraft.Proofs.Lists

/-! # Control words and identifiers read back from their texts

A control word is spelled as names and at most one number between bars. The names stand for disjoint
bits that the number leaves out, and together they make up the word again, whatever bits it has. An
identifier is spelled as its digits in groups.
-/

namespace Rotorcraft

namespace Text

/-- A word that stays whole between bars and blanks. -/
structure Solid (word : List Char) : Prop where
  nonempty : word ≠ []
  visible : ∀ c ∈ word, isBlank c = false
  noBar : '|' ∉ word

theorem splitAt_of_notMem {separator : Char} {text : List Char} (free : separator ∉ text) :
    splitAt separator text = [text] := by
  induction text with
  | nil => rfl
  | cons c text ih =>
    rw [List.mem_cons, not_or] at free
    rw [splitAt, if_neg (Ne.symm free.1), ih free.2]

/-- The text before the first separator is the first part. -/
theorem splitAt_append_cons {separator : Char} {part : List Char} (free : separator ∉ part)
    (rest : List Char) :
    splitAt separator (part ++ separator :: rest) = part :: splitAt separator rest := by
  induction part with
  | nil => rw [List.nil_append, splitAt, if_pos rfl]
  | cons c part ih =>
    rw [List.mem_cons, not_or] at free
    rw [List.cons_append, splitAt, if_neg (Ne.symm free.1), ih free.2]

/-- Only a blank text is trimmed to nothing. -/
theorem isBlank_of_trim_eq_nil {text : List Char} (empty : trim text = []) :
    ∀ c ∈ text, isBlank c = true := by
  have inner : ∀ c ∈ text.dropWhile isBlank, isBlank c = true := by
    intro c mem
    have reversed := List.dropWhile_eq_nil_iff.mp (List.reverse_eq_nil_iff.mp empty)
    exact reversed c (List.mem_reverse.mpr mem)
  intro c mem
  rw [← List.takeWhile_append_dropWhile (p := isBlank) (l := text)] at mem
  rcases List.mem_append.mp mem with front | back
  · exact List.all_eq_true.mp List.all_takeWhile c front
  · exact inner c back

theorem trim_eq_nil_iff {text : List Char} : trim text = [] ↔ ∀ c ∈ text, isBlank c = true := by
  refine ⟨isBlank_of_trim_eq_nil, fun blank => ?_⟩
  rw [trim, List.dropWhile_eq_nil_iff.mpr blank]
  rfl

private theorem dropWhile_blanks {blanks word : List Char} (blank : ∀ c ∈ blanks, isBlank c = true)
    (solid : Solid word) (rest : List Char) :
    (blanks ++ (word ++ rest)).dropWhile isBlank = word ++ rest := by
  rw [List.dropWhile_append_of_pos blank]
  match word, solid with
  | c :: word, solid =>
    have visible := solid.visible c List.mem_cons_self
    rw [List.cons_append, List.dropWhile_cons_of_neg (by simp [visible])]

theorem trim_blanks {left right word : List Char} (blankLeft : ∀ c ∈ left, isBlank c = true)
    (blankRight : ∀ c ∈ right, isBlank c = true) (solid : Solid word) :
    trim (left ++ (word ++ right)) = word := by
  have back : Solid word.reverse :=
    ⟨by simpa using solid.nonempty, by simpa using solid.visible, by simpa using solid.noBar⟩
  have blank : ∀ c ∈ right.reverse, isBlank c = true := by simpa using blankRight
  have reversed := dropWhile_blanks blank back []
  rw [List.append_nil] at reversed
  rw [trim, dropWhile_blanks blankLeft solid, List.reverse_append, reversed, List.reverse_reverse]

/-- Words joined by bars are found again between them. -/
theorem map_trim_splitAt_intercalate {word : List Char} {words : List (List Char)}
    (solid : ∀ other ∈ word :: words, Solid other) {lead : List Char} (visible : '|' ∉ lead)
    (blank : ∀ c ∈ lead, isBlank c = true) :
    (splitAt '|' (lead ++ [' ', '|', ' '].intercalate (word :: words))).map trim = word :: words := by
  have first := solid word List.mem_cons_self
  induction words generalizing word lead with
  | nil =>
    have free : '|' ∉ lead ++ word := by simp [visible, first.noBar]
    have trimmed : trim (lead ++ (word ++ [])) = word := trim_blanks blank (by simp) first
    rw [List.append_nil] at trimmed
    rw [List.intercalate_singleton, splitAt_of_notMem free, List.map_singleton, trimmed]
  | cons second words ih =>
    have space : ∀ c ∈ [' '], isBlank c = true := by
      intro c mem
      rw [List.mem_singleton.mp mem]
      decide
    have free : '|' ∉ lead ++ (word ++ [' ']) := by simp [visible, first.noBar]
    have trimmed : trim (lead ++ (word ++ [' '])) = word := trim_blanks blank space first
    have later : ∀ other ∈ second :: words, Solid other :=
      fun other mem => solid other (List.mem_cons_of_mem _ mem)
    have others : (splitAt '|' ([' '] ++ [' ', '|', ' '].intercalate (second :: words))).map trim =
        second :: words := ih later (by decide) space (later second List.mem_cons_self)
    have joined : lead ++ [' ', '|', ' '].intercalate (word :: second :: words) =
        (lead ++ (word ++ [' '])) ++ '|' :: ([' '] ++ [' ', '|', ' '].intercalate (second :: words)) := by
      rw [List.intercalate_cons_cons]
      simp
    rw [joined, splitAt_append_cons free, List.map_cons, trimmed, others]

/-- A hexadecimal digit is neither blank nor any mark of a spelling. -/
theorem digitChar_plain {digit : Nat} (small : digit < 16) :
    isBlank (Nat.digitChar digit) = false ∧ Nat.digitChar digit ≠ '|' ∧
      Nat.digitChar digit ≠ '+' ∧ Nat.digitChar digit ≠ '-' := by
  have all : ∀ digit : Fin 16, isBlank (Nat.digitChar digit.val) = false ∧
      Nat.digitChar digit.val ≠ '|' ∧ Nat.digitChar digit.val ≠ '+' ∧
      Nat.digitChar digit.val ≠ '-' := by decide
  exact all ⟨digit, small⟩

end Text

namespace ControlFlags

open Text (Solid)

/-- The words whose bits make up a control word, in the order of its parts. -/
def masks (flags : ControlFlags) : List ControlFlags :=
  flags.present.map (·.2) ++ if flags.unnamed.bits = 0 then [] else [flags.unnamed]

theorem named_spelled : ∀ entry ∈ named, readPart? entry.1.toList = some entry.2 := by decide

theorem named_solid : ∀ entry ∈ named, Solid entry.1.toList := by
  have facts : ∀ entry ∈ named, entry.1.toList ≠ [] ∧
      (entry.1.toList.all fun c => !Text.isBlank c) = true ∧ '|' ∉ entry.1.toList := by decide
  intro entry mem
  obtain ⟨nonempty, visible, noBar⟩ := facts entry mem
  exact ⟨nonempty, by simpa using visible, noBar⟩

theorem toList_bits (number : Nat) :
    ("0x" ++ Text.hexPadded 1 number).toList = '0' :: 'x' :: Nat.toDigits 16 number := by
  rw [String.toList_append, Text.toList_hexPadded_one]
  rfl

theorem readPart?_bits (flags : ControlFlags) :
    readPart? ("0x" ++ Text.hexPadded 1 flags.bits.toNat).toList = some flags := by
  have small : flags.bits.toNat < 65536 := flags.bits.toNat_lt
  have signless : ∀ rest, Nat.toDigits 16 flags.bits.toNat ≠ '+' :: rest := by
    intro rest written
    have mem : '+' ∈ Nat.toDigits 16 flags.bits.toNat := written ▸ List.mem_cons_self
    obtain ⟨digit, bound, same⟩ := exists_digit_of_mem_toDigits (by decide) mem
    exact (Text.digitChar_plain bound).2.2.1 same.symm
  rw [toList_bits]
  show readBits? (Nat.toDigits 16 flags.bits.toNat) = _
  unfold readBits?
  split
  · next rest written => exact absurd written (signless rest)
  · show (Text.readHex? (Nat.toDigits 16 flags.bits.toNat)).bind _ = _
    rw [Text.readHex?_toDigits]
    show (if flags.bits.toNat < 65536 then some (⟨UInt16.ofNat flags.bits.toNat⟩ : ControlFlags) else none) = _
    rw [if_pos small, UInt16.ofNat_toNat]

theorem solid_bits (number : Nat) : Solid ("0x" ++ Text.hexPadded 1 number).toList := by
  have digits : ∀ c ∈ Nat.toDigits 16 number, Text.isBlank c = false ∧ c ≠ '|' := by
    intro c mem
    obtain ⟨digit, bound, rfl⟩ := exists_digit_of_mem_toDigits (by decide) mem
    have plain := Text.digitChar_plain bound
    exact ⟨plain.1, plain.2.1⟩
  rw [toList_bits]
  refine ⟨by simp, ?_, ?_⟩
  · intro c mem
    simp only [List.mem_cons] at mem
    obtain rfl | rfl | mem := mem
    · decide
    · decide
    · exact (digits c mem).1
  · intro mem
    simp only [List.mem_cons] at mem
    obtain same | same | mem := mem
    · exact absurd same (by decide)
    · exact absurd same (by decide)
    · exact (digits '|' mem).2 rfl

theorem mem_named_of_mem_present {flags : ControlFlags} {entry : String × ControlFlags}
    (mem : entry ∈ flags.present) : entry ∈ named :=
  (List.mem_filter.mp mem).1

/-- The parts of a text are read as the words that they stand for. -/
theorem mapM_readPart?_parts (flags : ControlFlags) :
    (flags.parts.map String.toList).mapM readPart? = some flags.masks := by
  have names : (flags.present.map fun entry => entry.1.toList).mapM readPart? =
      some (flags.present.map (·.2)) :=
    mapM_map_eq_some fun entry mem => named_spelled entry (mem_named_of_mem_present mem)
  rw [parts, masks, List.map_append, List.map_map, List.mapM_append]
  show (List.mapM readPart? (flags.present.map fun entry => entry.1.toList)).bind _ = _
  rw [names]
  split
  · rfl
  · rw [List.map_singleton, List.mapM_cons, readPart?_bits]
    rfl

theorem solid_parts (flags : ControlFlags) : ∀ word ∈ flags.parts.map String.toList, Solid word := by
  intro word mem
  obtain ⟨part, held, rfl⟩ := List.mem_map.mp mem
  rcases List.mem_append.mp held with name | bits
  · obtain ⟨entry, present, rfl⟩ := List.mem_map.mp name
    exact named_solid entry (mem_named_of_mem_present present)
  · split at bits
    · exact absurd bits List.not_mem_nil
    · rw [List.mem_singleton.mp bits]
      exact solid_bits _

private theorem or_or_and_not (done mask rest : UInt16) :
    done ||| mask ||| (rest &&& ~~~mask) = done ||| rest ||| mask := by
  apply UInt16.toBitVec_inj.mp
  ext index bound
  simp only [UInt16.toBitVec_and, UInt16.toBitVec_or, UInt16.toBitVec_not, BitVec.getElem_and,
    BitVec.getElem_or, BitVec.getElem_not]
  grind

/-- Bits that are taken off one word and put into another are not lost. -/
theorem foldl_insert_foldl_remove {flags done rest : ControlFlags}
    {entries : List (String × ControlFlags)} (held : ∀ entry ∈ entries, flags.contains entry.2 = true)
    (whole : done.insert rest = flags) :
    ((entries.map (·.2)).foldl insert done).insert
      (entries.foldl (fun rest entry => rest.remove entry.2) rest) = flags := by
  induction entries generalizing done rest with
  | nil => exact whole
  | cons entry entries ih =>
    have moved : (done.insert entry.2).insert (rest.remove entry.2) = (done.insert rest).insert entry.2 :=
      congrArg ControlFlags.mk (or_or_and_not done.bits entry.2.bits rest.bits)
    have still : (done.insert entry.2).insert (rest.remove entry.2) = flags := by
      rw [moved, whole, insert_eq_self (held entry List.mem_cons_self)]
    exact ih (fun other mem => held other (List.mem_cons_of_mem _ mem)) still

/-- A control word is made up of the words that its parts stand for. -/
theorem foldl_insert_masks (flags : ControlFlags) : flags.masks.foldl insert {} = flags := by
  have held : ∀ entry ∈ flags.present, flags.contains entry.2 = true :=
    fun entry mem => (List.mem_filter.mp mem).2
  have start : ({} : ControlFlags).insert flags = flags := by simp [insert]
  have whole := foldl_insert_foldl_remove held start
  change ((flags.present.map (·.2)).foldl insert {}).insert flags.unnamed = flags at whole
  rw [masks, List.foldl_append]
  split
  · next none =>
    have same : ∀ word : ControlFlags, word.insert flags.unnamed = word := by
      intro word
      simp [insert, none]
    rwa [same] at whole
  · exact whole

/-- The text of a control word is read as the word, whatever bits are set in it. -/
theorem ofText?_text (flags : ControlFlags) : ofText? flags.text = some flags := by
  have read := mapM_readPart?_parts flags
  have solid := solid_parts flags
  have joined : flags.text.toList = [' ', '|', ' '].intercalate (flags.parts.map String.toList) :=
    String.toList_intercalate
  cases words : flags.parts.map String.toList with
  | nil =>
    rw [words] at read joined
    have empty : flags = {} := by
      rw [← foldl_insert_masks flags, ← Option.some.inj read]
      rfl
    have blank : (Text.trim flags.text.toList).isEmpty = true := by
      rw [joined]
      rfl
    rw [ofText?, if_pos blank, empty]
  | cons word words' =>
    rw [words] at read joined solid
    have first := solid word List.mem_cons_self
    have parted : (Text.splitAt '|' ([] ++ [' ', '|', ' '].intercalate (word :: words'))).map Text.trim =
        word :: words' := Text.map_trim_splitAt_intercalate solid (by simp) (by simp)
    have visible : ¬(Text.trim flags.text.toList).isEmpty = true := by
      intro empty
      have blank := Text.isBlank_of_trim_eq_nil (List.isEmpty_iff.mp empty)
      match word, first with
      | c :: word, first =>
        have mem : c ∈ flags.text.toList := by
          rw [joined]
          cases words' <;> simp [List.intercalate_cons_cons]
        exact absurd (blank c mem) (by simp [first.visible c List.mem_cons_self])
    rw [ofText?, if_neg visible, joined]
    rw [List.nil_append] at parted
    have all : (Text.splitAt '|' ([' ', '|', ' '].intercalate (word :: words'))).mapM
        (fun part => readPart? (Text.trim part)) = some flags.masks := by
      rw [← read, ← congrArg (List.mapM readPart?) parted, List.mapM_map]
      rfl
    rw [all]
    exact congrArg some (foldl_insert_masks flags)

example : (⟨0x8005⟩ : ControlFlags).text = "ATTRACTION_ACTIVE | 0x8004" := by decide

end ControlFlags

namespace Uuid

theorem ofDigitChars?_digitChars (uuid : Uuid) : ofDigitChars? uuid.digitChars = some uuid := by
  obtain ⟨⟨digits, size⟩⟩ := uuid
  have length : digits.toList.length = 32 := by simpa using size
  have mapped : (digits.toList.map digitChar).mapM Text.hexDigit? = some (digits.toList.map id) :=
    mapM_map_eq_some fun digit _ => Text.hexDigit?_digitChar digit
  rw [List.map_id] at mapped
  show ((digits.toList.map digitChar).mapM Text.hexDigit?).bind _ = _
  rw [mapped, Option.bind_some, dif_pos length]

theorem mem_digitChars_ne_hyphen {uuid : Uuid} {c : Char} (mem : c ∈ uuid.digitChars) : c ≠ '-' := by
  obtain ⟨digit, _, rfl⟩ := List.mem_map.mp mem
  exact (Text.digitChar_plain digit.isLt).2.2.2

/-- Hyphens are found again among characters that are none. -/
theorem filter_hyphenate {chars : List Char} (bare : ∀ c ∈ chars, c ≠ '-') :
    (hyphenate chars).filter (· != '-') = chars := by
  have kept : ∀ part : List Char, part ⊆ chars → part.filter (· != '-') = part := by
    intro part inside
    apply List.filter_eq_self.mpr
    intro c mem
    simpa using bare c (inside mem)
  have cut : ∀ lower count, ((chars.drop lower).take count).filter (· != '-') =
      (chars.drop lower).take count := by
    intro lower count
    exact kept _ fun c mem => List.drop_subset _ _ (List.take_subset _ _ mem)
  have first : (chars.take 8).filter (· != '-') = chars.take 8 := kept _ (List.take_subset _ _)
  have last : (chars.drop 20).filter (· != '-') = chars.drop 20 := kept _ (List.drop_subset _ _)
  have hyphen : ∀ rest : List Char, ('-' :: rest).filter (· != '-') = rest.filter (· != '-') :=
    fun _ => rfl
  have regroup : ∀ place, (chars.drop place).take 4 ++ chars.drop (place + 4) = chars.drop place := by
    intro place
    rw [← List.drop_drop, List.take_append_drop]
  simp only [hyphenate, List.filter_append, hyphen, first, cut, last, List.append_assoc]
  rw [regroup 16, regroup 12, regroup 8, List.take_append_drop]

theorem length_digitChars (uuid : Uuid) : uuid.digitChars.length = 32 := by simp [digitChars]

theorem length_hyphenate {chars : List Char} (full : chars.length = 32) :
    (hyphenate chars).length = 36 := by
  simp [hyphenate, full]

/-- The hyphenated digits of an identifier are read as the identifier. -/
theorem ofHyphenated?_digitChars (uuid : Uuid) :
    ofHyphenated? (hyphenate uuid.digitChars) = some uuid := by
  have bare := filter_hyphenate fun c (mem : c ∈ uuid.digitChars) => mem_digitChars_ne_hyphen mem
  rw [ofHyphenated?, bare, if_pos ⟨uuid.length_digitChars, rfl⟩, ofDigitChars?_digitChars]

/-- A text of digits begins neither with a brace nor like a URN. -/
theorem exists_hyphenate_eq_cons (uuid : Uuid) : ∃ c others,
    hyphenate uuid.digitChars = c :: others ∧ c ≠ '\x7b' ∧ c.toLower ≠ 'u' := by
  have leads : ∀ digit : Fin 16, digitChar digit ≠ '\x7b' ∧ (digitChar digit).toLower ≠ 'u' := by
    decide
  cases written : uuid.digitChars with
  | nil => exact absurd uuid.length_digitChars (by simp [written])
  | cons c others =>
    have mem : c ∈ uuid.digitChars := written ▸ List.mem_cons_self
    obtain ⟨digit, _, rfl⟩ := List.mem_map.mp mem
    exact ⟨_, _, rfl, leads digit⟩

/-- The text of an identifier is read as the identifier. -/
theorem ofText?_text (uuid : Uuid) : ofText? uuid.text = some uuid := by
  have read := ofHyphenated?_digitChars uuid
  have length := length_hyphenate uuid.length_digitChars
  obtain ⟨c, others, written, notBrace, notUrn⟩ := exists_hyphenate_eq_cons uuid
  have noMark : ¬((hyphenate uuid.digitChars).take urnMark.length).map Char.toLower = urnMark := by
    intro same
    rw [written] at same
    exact notUrn (List.cons.inj same).1
  rw [ofText?, text, String.toList_ofList]
  split
  · next rest same =>
    rw [written] at same
    exact absurd (List.cons.inj same).1 notBrace
  · rw [if_neg noMark, if_neg (by omega), read]

end Uuid
end Rotorcraft
