import Rotorcraft.Terminal.WidthTable

/-! # The width of a text in terminal columns

A text is measured from its end, because what a character adds depends on the characters behind it
that it is drawn together with: a selector decides between picture and text, joined pictures are
drawn as one, and the letters of a ligature share their columns. Control characters take one column.
-/

namespace Rotorcraft.Terminal

/-- The columns that a character takes on its own. The Khmer sign beyyal is drawn as three. -/
def charWidth (c : Char) : Nat :=
  if c.toNat ≤ 0xA0 then 1
  else if c = '\u17D8' then 3
  else if inRanges zeroRanges c.toNat then 0
  else if inRanges wideRanges c.toNat then 2
  else 1

def between (first last : Nat) (c : Char) : Bool :=
  first ≤ c.toNat && c.toNat ≤ last

/-- Whether a character has a form as a picture and one as text. -/
def isSelectable (c : Char) : Bool :=
  inRanges selectableRanges c.toNat

/-- Whether a character is drawn as a picture unless a selector says otherwise. -/
def isPicture (c : Char) : Bool :=
  inRanges pictureRanges c.toNat

/-- Whether a picture becomes narrow as text; the enclosed ideographs do not. -/
def narrowsAsText (c : Char) : Bool :=
  isSelectable c && isPicture c && !between 0x1F200 0x1F2FF c

def isSkinTone (c : Char) : Bool :=
  between 0x1F3FB 0x1F3FF c

/-- Whether a character is one of the regional letters, two of which make a flag. -/
def isRegional (c : Char) : Bool :=
  between 0x1F1E6 0x1F1FF c

def isTagLetter (c : Char) : Bool :=
  between 0xE0061 0xE007A c

def isTagDigit (c : Char) : Bool :=
  between 0xE0030 0xE0039 c

def isCurlyQuote (c : Char) : Bool :=
  c = '\u2018' || c = '\u2019' || c = '\u201C' || c = '\u201D'

def isLam (c : Char) : Bool :=
  c = '\u0644' || between 0x06B5 0x06B8 c || c = '\u076A' || c = '\u08A6' || c = '\u08C7'

def isAlef (c : Char) : Bool :=
  c = '\u0622' || c = '\u0623' || c = '\u0625' || c = '\u0627' || between 0x0671 0x0673 c ||
    c = '\u0675' || c = '\u0773' || c = '\u0774' || between 0x0870 0x0882 c

/-- Whether Arabic letters join across a character. -/
def isJoiningMark (c : Char) : Bool :=
  charWidth c = 0 && !inRanges breakingRanges c.toNat

/-- Whether a character is a Tifinagh consonant. -/
def isTifinagh (c : Char) : Bool :=
  between 0x2D31 0x2D65 c || c = '\u2D6F'

/-- Whether a character is a Khmer letter that can be written below another one. -/
def isSubjoinable (c : Char) : Bool :=
  between 0x1780 0x1782 c || between 0x1784 0x1787 c || between 0x1789 0x178C c ||
    between 0x178E 0x1793 c || between 0x1795 0x1798 c || between 0x179B 0x179D c ||
    c = '\u17A0' || c = '\u17A2' || c = '\u17A7' || c = '\u17AB' || c = '\u17AC' || c = '\u17AF'

/-- Whether a character may stand inside a ligature: joiners and selectors of forms. -/
def isInsideLigature (c : Char) : Bool :=
  c = '\u034F' || c = '\u17B4' || c = '\u17B5' || between 0x180B 0x180D c || c = '\u180F' ||
    c = '\u200D' || between 0xFE00 0xFE0F c || between 0xE0100 0xE01EF c

/-- The last letter of a ligature, or what has been read of one. -/
inductive Ligature where
  /-- An Arabic alef, joined by a lam. -/
  | alef
  /-- A Hebrew lamed, joined by an alef and a joiner. -/
  | lamed
  /-- A Buginese ya, joined by a vowel sign and a joiner. -/
  | ya
  /-- A Buginese ya with the vowel sign in front of it, joined by another ya. -/
  | yaWithVowel
  /-- A Tifinagh consonant, joined by another one and a joiner. -/
  | consonant
  /-- A Tifinagh consonant with the consonant joiner in front of it, joined by another one. -/
  | joinedConsonant
  /-- A Lisu tone of the second kind, joined by one of the first. -/
  | tone
  /-- An Old Turkic i, joined by a ligating letter and a joiner. -/
  | turkicI
  /-- A Khmer letter, written below the one in front of it after the sign for that. -/
  | subjoinable
deriving DecidableEq, Repr

/-- What stands behind a character, as far as the two may be drawn as one. -/
inductive Follower where
  | other
  | lineFeed
  | picture
  | skinTone
  /-- One regional letter. -/
  | regional
  /-- Two regional letters or more. -/
  | regionals
  /-- A joiner and a picture. -/
  | joinedPicture
  /-- A keycap, a joiner and a picture. -/
  | joinedKeycap
  /-- One regional letter, a joiner and a picture. -/
  | joinedRegional
  /-- Flags, a joiner and a picture. -/
  | joinedFlags
  /-- One regional letter, flags, a joiner and a picture. -/
  | joinedOddFlags
  /-- That many tag letters, perhaps digits, the end of a tag, a joiner and a picture. -/
  | tagLetters (count : Nat)
  /-- That many tag digits, perhaps letters, the end of a tag, a joiner and a picture. -/
  | tagDigits (count : Nat)
  /-- The Kirat Rai vowel sign e. -/
  | vowelE
  /-- The Kirat Rai vowel sign ai. -/
  | vowelAi
  /-- A ligature, with or without a joiner in front of it. -/
  | ligature (letters : Ligature) (joiner : Bool)
deriving DecidableEq, Repr

namespace Follower

/-- Whether the follower belongs to a ligature. -/
def isLigature : Follower → Bool
  | .ligature _ _ => true
  | _ => false

/-- Whether the selector of pictures may stand in front of the follower inside a joined picture. -/
def isJoined : Follower → Bool
  | .joinedPicture | .joinedKeycap => true
  | _ => false

/-- The follower of a character behind which nothing joins it. -/
def ofChar (c : Char) : Follower :=
  if c = '\n' then .lineFeed
  else if c = '\u05DC' then .ligature .lamed false
  else if c = '\u1A10' then .ligature .ya false
  else if c = '\uA4FC' || c = '\uA4FD' then .ligature .tone false
  else if c.toNat = 0x10C03 then .ligature .turkicI false
  else if c.toNat = 0x16D67 then .vowelE
  else if c.toNat = 0x16D68 then .vowelAi
  else if isAlef c then .ligature .alef false
  else if isSubjoinable c then .ligature .subjoinable false
  else if isTifinagh c then .ligature .consonant false
  else if isRegional c then .regional
  else if isSkinTone c then .skinTone
  else if isPicture c then .picture
  else .other

/-- The columns that a character adds in front of a ligature that it belongs to, and what the
ligature becomes. -/
def joinLigature? (c : Char) : Ligature → (joiner : Bool) → Option (Int × Follower)
  | .alef, _ =>
    if isLam c then some (0, .other)
    else if isJoiningMark c then some (0, .ligature .alef false)
    else none
  | .lamed, joiner => if joiner && c = '\u05D0' then some (0, .other) else none
  | .ya, joiner => if joiner && c = '\u1A17' then some (0, .ligature .yaWithVowel true) else none
  | .yaWithVowel, _ => if c = '\u1A15' then some (0, .other) else none
  | .consonant, joiner =>
    if c = '\u2D7F' then some (1, .ligature .joinedConsonant true)
    else if joiner && isTifinagh c then some (0, .other)
    else none
  | .joinedConsonant, _ => if isTifinagh c then some (-1, .other) else none
  | .tone, _ => if between 0xA4F8 0xA4FB c then some (0, .other) else none
  | .turkicI, joiner => if joiner && c.toNat = 0x10C32 then some (0, .other) else none
  | .subjoinable, _ => if c = '\u17D2' then some (-1, .other) else none

/-- The columns that a character adds in front of a joiner and a picture, if it is joined too, and
what they become. -/
def joinPicture? (c : Char) : Option (Int × Follower) :=
  if c = '\u20E3' then some (0, .joinedKeycap)
  else if isRegional c then some (1, .joinedRegional)
  else if isSkinTone c then some (0, .skinTone)
  else if c.toNat = 0xE007F then some (0, .tagLetters 0)
  else if isPicture c then some (0, .picture)
  else none

/-- The same in front of a tag that names a part of a country behind a black flag. The name has
three letters or more, or ends in three digits. -/
def joinTag? (c : Char) (letters digits : Nat) : Option (Int × Follower) :=
  if isTagLetter c && digits = 0 && letters < 6 then some (0, .tagLetters (letters + 1))
  else if isTagDigit c && digits = 0 && letters < 5 then some (0, .tagDigits 1)
  else if isTagDigit c && 0 < digits && digits < 3 then some (0, .tagDigits (digits + 1))
  else if c.toNat = 0x1F3F4 && (3 ≤ letters || digits = 3) then some (0, .picture)
  else none

/-- The columns that a character adds in front of a follower that it is drawn together with, which
may be fewer than none, and what the two are to the character in front of them. -/
def join? (c : Char) : Follower → Option (Int × Follower)
  | .other | .joinedKeycap => none
  | .lineFeed => if c = '\r' then some (0, .other) else none
  | .picture => if c = '\u200D' then some (0, .joinedPicture) else none
  | .skinTone =>
    if c = '\u200D' then some (0, .joinedPicture)
    else if inRanges modifiableRanges c.toNat then some (0, .picture)
    else none
  | .regional => if isRegional c then some (1, .regionals) else none
  | .regionals =>
    if c = '\u200D' then some (0, .joinedPicture)
    else if isRegional c then some (1, .regionals)
    else none
  | .joinedPicture => joinPicture? c
  | .joinedRegional => if isRegional c then some (-1, .joinedFlags) else none
  | .joinedFlags =>
    if c = '\u200D' then some (0, .joinedPicture)
    else if isRegional c then some (3, .joinedOddFlags)
    else none
  | .joinedOddFlags =>
    if c = '\u200D' then some (0, .joinedPicture)
    else if isRegional c then some (-1, .joinedFlags)
    else none
  | .tagLetters count => joinTag? c count 0
  | .tagDigits count => joinTag? c 0 count
  | .vowelE =>
    if c.toNat = 0x16D63 || c.toNat = 0x16D69 then some (0, .other)
    else if c.toNat = 0x16D67 then some (0, .vowelAi)
    else if c.toNat = 0x16D68 then some (1, .vowelE)
    else none
  | .vowelAi => if c.toNat = 0x16D63 then some (0, .other) else none
  | .ligature letters joiner => joinLigature? c letters joiner

end Follower

/-- What stands behind a character: its follower, and the selectors in front of that. -/
structure Context where
  follower : Follower := .other
  asPicture : Bool := false
  asText : Bool := false
  /-- The selector that makes curly quotation marks wide. -/
  asWideQuote : Bool := false
deriving DecidableEq, Repr

namespace Context

/-- What is left of a context in front of a selector: letters join into a ligature across it, and
nothing else does. -/
def behindSelector (context : Context) : Context :=
  if context.follower.isLigature then context else {}

/-- The context in front of the selector of pictures, which does not part joined ones. -/
def selectPicture (context : Context) : Context :=
  if context.follower.isJoined then { context with asPicture := true }
  else { context.behindSelector with asPicture := true }

/-- The context once its selector of pictures has met a character without a form as a picture. -/
def dropPicture (context : Context) : Context :=
  if context.asPicture then { context.behindSelector with asPicture := false } else context

/-- The context once its other selectors have met a character that they do not change. -/
def dropSelectors (context : Context) : Context :=
  { context with asText := false, asWideQuote := false }

/-- The context in front of a character that may stand inside its ligature. Arabic letters have a
rule of their own. -/
def insideLigature? (c : Char) (context : Context) : Option Context :=
  match context.follower with
  | .ligature .alef _ => none
  | .ligature letters joiner =>
    if isInsideLigature c then
      some { context with follower := .ligature letters (joiner || c = '\u200D') }
    else none
  | _ => none

/-- The columns that a character adds by itself, and its context for the character in front. -/
def alone (c : Char) : Int × Context :=
  (charWidth c, { follower := .ofChar c })

/-- The columns that a character adds in front of its context where no selector changes it, and
their context together. -/
def join (c : Char) (context : Context) : Int × Context :=
  match context.insideLigature? c with
  | some inside => (0, inside)
  | none =>
    match context.follower.join? c with
    | some (columns, follower) => (columns, { follower })
    | none => alone c

/-- The columns that a character adds in front of its context, and their context together. Selectors
come first: one that is waiting takes its symbol or is dropped, and a new one is noted. -/
def measure (c : Char) (context : Context) : Int × Context :=
  if context.asPicture && isSelectable c then
    (if context.follower.isJoined then 0 else 2, { follower := .picture })
  else
    let context := context.dropPicture
    if c = '\uFE0F' then (0, context.selectPicture)
    else if c = '\uFE0E' then (0, { context.behindSelector with asText := true })
    else if c = '\uFE01' then (0, { context.behindSelector with asWideQuote := true })
    else if context.asText && narrowsAsText c then (1, {})
    else if context.asWideQuote && isCurlyQuote c then (2, {})
    else context.dropSelectors.join c

end Context

/-- The columns of a text, and its context for a character in front of it. -/
def measureChars (chars : List Char) : Int × Context :=
  chars.foldr (fun c (columns, context) =>
    let (added, context) := context.measure c
    (columns + added, context)) (0, {})

/-- The columns that a text takes. -/
def textWidth (text : String) : Nat :=
  (measureChars text.toList).1.toNat

end Rotorcraft.Terminal
