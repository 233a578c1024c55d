import Rotorcraft.Json.Reader
import Rotorcraft.Proofs.Lexing

/-! # Layouts and what they have in common

The compact and the indented text of a value hold the same tokens and differ in the blanks between
them. A reader sees the tokens only, so either text is read as the value that it was written for.
-/

namespace Rotorcraft.Json

mutual

/-- The tokens that every text of a value holds. -/
def tokensOf : Json → List Token
  | .null => [.null]
  | .bool value => [.bool value]
  | .number value => [.number value]
  | .string text => [.string text]
  | .array [] => [.beginArray, .endArray]
  | .array (item :: rest) => .beginArray :: tokensOf item ++ itemTokens rest
  | .object [] => [.beginObject, .endObject]
  | .object ((name, value) :: rest) =>
    .beginObject :: .string name :: .colon :: tokensOf value ++ memberTokens rest

/-- The tokens of the items after the first one and of the end of their array. -/
def itemTokens : List Json → List Token
  | [] => [.endArray]
  | item :: rest => .comma :: tokensOf item ++ itemTokens rest

/-- The tokens of the members after the first one and of the end of their object. -/
def memberTokens : List (Option String × Json) → List Token
  | [] => [.endObject]
  | (name, value) :: rest => .comma :: .string name :: .colon :: tokensOf value ++ memberTokens rest

end

def hasParts : Json → Bool
  | .array (_ :: _) => true
  | .object (_ :: _) => true
  | _ => false

namespace ReaderState

theorem foldlM_firstItem (nesting : List OpenContainer) (value : Json) (rest : List Token) :
    (tokensOf value ++ rest).foldlM step ⟨.firstItem, nesting⟩ =
      (tokensOf value ++ rest).foldlM step ⟨.value, nesting⟩ := by
  match value with
  | .null | .bool _ | .number _ | .string _ | .array [] | .object [] => rfl
  | .array (item :: items) =>
    rw [tokensOf]
    rfl
  | .object ((name, value) :: members) =>
    rw [tokensOf]
    rfl

mutual

/-- The tokens of a value are read as the value. -/
theorem foldlM_tokensOf (value : Json) (nesting : List OpenContainer) (rest : List Token) :
    (tokensOf value ++ rest).foldlM step ⟨.value, nesting⟩ =
      rest.foldlM step ⟨.next value, nesting⟩ := by
  match value with
  | .null | .bool _ | .number _ | .string _ | .array [] | .object [] => rfl
  | .array (item :: items) =>
    have others := foldlM_itemTokens items [] item nesting rest
    simp only [tokensOf, List.cons_append, List.append_assoc]
    show (tokensOf item ++ (itemTokens items ++ rest)).foldlM step ⟨.firstItem, .array [] :: nesting⟩ = _
    rw [foldlM_firstItem, foldlM_tokensOf item, others]
    rfl
  | .object ((name, first) :: members) =>
    have others := foldlM_memberTokens members [] name first nesting rest
    simp only [tokensOf, List.cons_append, List.append_assoc]
    show (tokensOf first ++ (memberTokens members ++ rest)).foldlM step
      ⟨.value, .member [] name :: nesting⟩ = _
    rw [foldlM_tokensOf first, others]
    rfl

/-- The tokens behind an item are read as the items after it. -/
theorem foldlM_itemTokens (items before : List Json) (item : Json) (nesting : List OpenContainer)
    (rest : List Token) :
    (itemTokens items ++ rest).foldlM step ⟨.next item, .array before :: nesting⟩ =
      rest.foldlM step ⟨.next (.array ((item :: before).reverse ++ items)), nesting⟩ := by
  match items with
  | [] =>
    rw [List.append_nil]
    rfl
  | second :: items =>
    have others := foldlM_itemTokens items (item :: before) second nesting rest
    simp only [itemTokens, List.cons_append, List.append_assoc]
    show (tokensOf second ++ (itemTokens items ++ rest)).foldlM step
      ⟨.value, .array (item :: before) :: nesting⟩ = _
    rw [foldlM_tokensOf second, others, List.reverse_cons, List.append_assoc]
    rfl

/-- The tokens behind a member are read as the members after it. -/
theorem foldlM_memberTokens (members before : List (Option String × Json)) (name : Option String)
    (value : Json) (nesting : List OpenContainer) (rest : List Token) :
    (memberTokens members ++ rest).foldlM step ⟨.next value, .member before name :: nesting⟩ =
      rest.foldlM step
        ⟨.next (.object (((name, value) :: before).reverse ++ members)), nesting⟩ := by
  match members with
  | [] =>
    rw [List.append_nil]
    rfl
  | (second, other) :: members =>
    have others := foldlM_memberTokens members ((name, value) :: before) second other nesting rest
    simp only [memberTokens, List.cons_append, List.append_assoc]
    show (tokensOf other ++ (memberTokens members ++ rest)).foldlM step
      ⟨.value, .member ((name, value) :: before) second :: nesting⟩ = _
    rw [foldlM_tokensOf other, others, List.reverse_cons, List.append_assoc]
    rfl

end

end ReaderState

theorem ofTokens?_tokensOf (value : Json) : ofTokens? (tokensOf value) = some value := by
  have read := ReaderState.foldlM_tokensOf value [] []
  rw [List.append_nil] at read
  rw [ofTokens?, read]
  rfl

/-- A text is cut into some tokens, given fuel for its length. -/
def Lexes (text : List Char) (tokens : List Token) : Prop :=
  ∀ fuel, text.length ≤ fuel → tokensWithin fuel text = some tokens

theorem Lexes.nil : Lexes [] [] := by
  intro fuel _
  cases fuel <;> rfl

/-- One token more is cut off a text. -/
theorem Scans.lexes {text rest : List Char} {token : Token} {tokens : List Token}
    (scanned : Scans text rest token) (goes : Lexes rest tokens) :
    Lexes (text ++ rest) (token :: tokens) := by
  obtain ⟨c, printed, rfl, visible, scanned⟩ := scanned
  intro fuel enough
  cases fuel with
  | zero => exact absurd enough (by simp)
  | succ fuel =>
    have shorter : rest.length ≤ fuel := by
      simp only [List.cons_append, List.length_cons, List.length_append] at enough
      omega
    rw [List.cons_append, tokensWithin, visible, if_neg Bool.false_ne_true, scanned]
    show (tokensWithin fuel rest).bind _ = _
    rw [goes fuel shorter]
    rfl

theorem Lexes.mark {mark : Char} {token : Token} {rest : List Char} {tokens : List Token}
    (visible : isSpace mark = false) (marks : ∀ rest, scan mark rest = some (token, rest))
    (goes : Lexes rest tokens) : Lexes (mark :: rest) (token :: tokens) :=
  Scans.lexes ⟨mark, [], rfl, visible, marks rest⟩ goes

theorem Lexes.blanks {blanks rest : List Char} {tokens : List Token}
    (blank : blanks.all isSpace = true) (goes : Lexes rest tokens) : Lexes (blanks ++ rest) tokens := by
  induction blanks with
  | nil => exact goes
  | cons c blanks ih =>
    rw [List.all_cons, Bool.and_eq_true] at blank
    intro fuel enough
    cases fuel with
    | zero => exact absurd enough (by simp)
    | succ fuel =>
      have shorter : (blanks ++ rest).length ≤ fuel := by
        simp only [List.cons_append, List.length_cons] at enough
        omega
      rw [List.cons_append, tokensWithin, if_pos blank.1]
      exact ih blank.2 fuel shorter

theorem Lexes.scalar {value : Json} (plain : hasParts value = false) {rest : List Char}
    {tokens : List Token} (ends : carriesOn rest = false) (goes : Lexes rest tokens) :
    Lexes (scalarChars value ++ rest) (tokensOf value ++ tokens) := by
  match value with
  | .null => exact Scans.lexes ⟨'n', ['u', 'l', 'l'], rfl, rfl, rfl⟩ goes
  | .bool true => exact Scans.lexes ⟨'t', ['r', 'u', 'e'], rfl, rfl, rfl⟩ goes
  | .bool false => exact Scans.lexes ⟨'f', ['a', 'l', 's', 'e'], rfl, rfl, rfl⟩ goes
  | .number written => exact (scans_number written ends).lexes goes
  | .string text => exact (scans_quoted text rest).lexes goes
  | .array [] =>
    have closed : Lexes (']' :: rest) (.endArray :: tokens) := .mark rfl (fun _ => rfl) goes
    exact .mark rfl (fun _ => rfl) closed
  | .object [] =>
    have closed : Lexes ('\x7d' :: rest) (.endObject :: tokens) := .mark rfl (fun _ => rfl) goes
    exact .mark rfl (fun _ => rfl) closed

/-- A way to write values in which blanks stand between tokens at most. -/
structure Layout where
  /-- The text of a value inside so many containers. -/
  chars : Nat → Json → List Char
  /-- The items after the first one and the end of their array. -/
  itemChars : Nat → List Json → List Char
  /-- The members after the first one and the end of their object. -/
  memberChars : Nat → List (Option String × Json) → List Char
  /-- What stands before an item, a member or the end of a container. -/
  lineBreak : Nat → List Char
  /-- What stands behind a colon. -/
  gap : List Char
  blank_lineBreak : ∀ depth, (lineBreak depth).all isSpace = true
  blank_gap : gap.all isSpace = true
  chars_scalar : ∀ depth value, hasParts value = false → chars depth value = scalarChars value
  chars_array : ∀ depth item items, chars depth (.array (item :: items)) =
    '[' :: (lineBreak (depth + 1) ++ (chars (depth + 1) item ++ itemChars depth items))
  chars_object : ∀ depth name value members, chars depth (.object ((name, value) :: members)) =
    '\x7b' :: (lineBreak (depth + 1) ++ (quoted name ++
      ':' :: (gap ++ (chars (depth + 1) value ++ memberChars depth members))))
  itemChars_nil : ∀ depth, itemChars depth [] = lineBreak depth ++ [']']
  itemChars_cons : ∀ depth item items, itemChars depth (item :: items) =
    ',' :: (lineBreak (depth + 1) ++ (chars (depth + 1) item ++ itemChars depth items))
  memberChars_nil : ∀ depth, memberChars depth [] = lineBreak depth ++ ['\x7d']
  memberChars_cons : ∀ depth name value members, memberChars depth ((name, value) :: members) =
    ',' :: (lineBreak (depth + 1) ++ (quoted name ++
      ':' :: (gap ++ (chars (depth + 1) value ++ memberChars depth members))))

namespace Layout

def compact : Layout where
  chars _ := compactChars
  itemChars _ := compactItems
  memberChars _ := compactMembers
  lineBreak _ := []
  gap := []
  blank_lineBreak _ := rfl
  blank_gap := rfl
  chars_scalar _ value plain := by
    match value with
    | .null | .bool _ | .number _ | .string _ | .array [] | .object [] => rfl
  chars_array _ item items := by simp [compactChars]
  chars_object _ name value members := by simp [compactChars]
  itemChars_nil _ := rfl
  itemChars_cons _ item items := by simp [compactItems]
  memberChars_nil _ := rfl
  memberChars_cons _ name value members := by simp [compactMembers]

def indented : Layout where
  chars := indentedChars
  itemChars := indentedItems
  memberChars := indentedMembers
  lineBreak := newline
  gap := [' ']
  blank_lineBreak depth := by
    rw [newline, List.all_cons, List.all_replicate]
    cases 2 * depth <;> rfl
  blank_gap := rfl
  chars_scalar depth value plain := by
    match value with
    | .null | .bool _ | .number _ | .string _ | .array [] | .object [] => rfl
  chars_array depth item items := by simp [indentedChars]
  chars_object depth name value members := by simp [indentedChars]
  itemChars_nil depth := by rw [indentedItems]
  itemChars_cons depth item items := by simp [indentedItems]
  memberChars_nil depth := by rw [indentedMembers]
  memberChars_cons depth name value members := by simp [indentedMembers]

variable (layout : Layout)

/-- A number is not carried on by a line break and what follows it. -/
theorem carriesOn_lineBreak (depth : Nat) {rest : List Char} (ends : carriesOn rest = false) :
    carriesOn (layout.lineBreak depth ++ rest) = false := by
  have blank := layout.blank_lineBreak depth
  cases broken : layout.lineBreak depth with
  | nil => exact ends
  | cons c others =>
    rw [broken, List.all_cons, Bool.and_eq_true] at blank
    have space := blank.1
    simp only [isSpace, Bool.or_eq_true, beq_iff_eq] at space
    obtain ((rfl | rfl) | rfl) | rfl := space <;> rfl

theorem carriesOn_itemChars (depth : Nat) (items : List Json) (rest : List Char) :
    carriesOn (layout.itemChars depth items ++ rest) = false := by
  cases items with
  | nil =>
    rw [layout.itemChars_nil, List.append_assoc]
    exact layout.carriesOn_lineBreak depth rfl
  | cons item items =>
    rw [layout.itemChars_cons]
    rfl

theorem carriesOn_memberChars (depth : Nat) (members : List (Option String × Json))
    (rest : List Char) : carriesOn (layout.memberChars depth members ++ rest) = false := by
  cases members with
  | nil =>
    rw [layout.memberChars_nil, List.append_assoc]
    exact layout.carriesOn_lineBreak depth rfl
  | cons member members =>
    rw [layout.memberChars_cons]
    rfl

theorem lexes_name (name : Option String) {rest : List Char} {tokens : List Token}
    (goes : Lexes rest tokens) :
    Lexes (quoted name ++ ':' :: (layout.gap ++ rest)) (.string name :: .colon :: tokens) := by
  have valued : Lexes (':' :: (layout.gap ++ rest)) (.colon :: tokens) :=
    .mark rfl (fun _ => rfl) (goes.blanks layout.blank_gap)
  exact (scans_quoted name _).lexes valued

theorem lexes_scalar (depth : Nat) {value : Json} (plain : hasParts value = false)
    {rest : List Char} {tokens : List Token} (ends : carriesOn rest = false)
    (goes : Lexes rest tokens) : Lexes (layout.chars depth value ++ rest) (tokensOf value ++ tokens) := by
  rw [layout.chars_scalar depth value plain]
  exact Lexes.scalar plain ends goes

mutual

/-- The text of a value is cut into the tokens of the value. -/
theorem lexes_chars (depth : Nat) (value : Json) {rest : List Char} {tokens : List Token}
    (ends : carriesOn rest = false) (goes : Lexes rest tokens) :
    Lexes (layout.chars depth value ++ rest) (tokensOf value ++ tokens) := by
  match value with
  | .array (item :: items) =>
    have others := lexes_itemChars depth items goes
    have all := lexes_chars (depth + 1) item (layout.carriesOn_itemChars depth items rest) others
    simp only [layout.chars_array, tokensOf, List.cons_append, List.append_assoc]
    exact .mark rfl (fun _ => rfl) (all.blanks (layout.blank_lineBreak (depth + 1)))
  | .object ((name, first) :: members) =>
    have others := lexes_memberChars depth members goes
    have all := lexes_chars (depth + 1) first (layout.carriesOn_memberChars depth members rest) others
    simp only [layout.chars_object, tokensOf, List.cons_append, List.append_assoc]
    exact .mark rfl (fun _ => rfl)
      ((layout.lexes_name name all).blanks (layout.blank_lineBreak (depth + 1)))
  | .null | .bool _ | .number _ | .string _ | .array [] | .object [] =>
    exact layout.lexes_scalar depth rfl ends goes

theorem lexes_itemChars (depth : Nat) (items : List Json) {rest : List Char} {tokens : List Token}
    (goes : Lexes rest tokens) :
    Lexes (layout.itemChars depth items ++ rest) (itemTokens items ++ tokens) := by
  match items with
  | [] =>
    have closed : Lexes (']' :: rest) (.endArray :: tokens) := .mark rfl (fun _ => rfl) goes
    rw [layout.itemChars_nil, List.append_assoc]
    exact closed.blanks (layout.blank_lineBreak depth)
  | item :: items =>
    have others := lexes_itemChars depth items goes
    have all := lexes_chars (depth + 1) item (layout.carriesOn_itemChars depth items rest) others
    simp only [layout.itemChars_cons, itemTokens, List.cons_append, List.append_assoc]
    exact .mark rfl (fun _ => rfl) (all.blanks (layout.blank_lineBreak (depth + 1)))

theorem lexes_memberChars (depth : Nat) (members : List (Option String × Json)) {rest : List Char}
    {tokens : List Token} (goes : Lexes rest tokens) :
    Lexes (layout.memberChars depth members ++ rest) (memberTokens members ++ tokens) := by
  match members with
  | [] =>
    have closed : Lexes ('\x7d' :: rest) (.endObject :: tokens) := .mark rfl (fun _ => rfl) goes
    rw [layout.memberChars_nil, List.append_assoc]
    exact closed.blanks (layout.blank_lineBreak depth)
  | (name, value) :: members =>
    have others := lexes_memberChars depth members goes
    have all := lexes_chars (depth + 1) value (layout.carriesOn_memberChars depth members rest) others
    simp only [layout.memberChars_cons, memberTokens, List.cons_append, List.append_assoc]
    exact .mark rfl (fun _ => rfl)
      ((layout.lexes_name name all).blanks (layout.blank_lineBreak (depth + 1)))

end

/-- What is written in a layout is read as what was written. -/
theorem parse?_chars (depth : Nat) (value : Json) :
    parse? (String.ofList (layout.chars depth value)) = some value := by
  have cut := layout.lexes_chars depth value rfl Lexes.nil
  rw [List.append_nil, List.append_nil] at cut
  rw [parse?, String.toList_ofList, tokens?, cut _ (Nat.le_refl _)]
  exact ofTokens?_tokensOf value

end Layout

/-- The compact text of any value is read as the value. -/
theorem parse?_compact (value : Json) : parse? (compact value) = some value :=
  Layout.compact.parse?_chars 0 value

/-- The indented text of any value is read as the value. -/
theorem parse?_indented (value : Json) : parse? (indented value) = some value :=
  Layout.indented.parse?_chars 0 value

end Rotorcraft.Json
