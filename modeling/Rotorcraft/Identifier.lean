import Rotorcraft.Text.Hex

/-! # Identifiers

Actors and turrets are told apart by universally unique identifiers, which the engine is given and
never invents. An identifier is written as 32 hexadecimal digits in five groups and read in any of
the four usual spellings.
-/

namespace Rotorcraft

/-- A 128-bit identifier, by its hexadecimal digits, most significant first. -/
structure Uuid where
  digits : Vector (Fin 16) 32
deriving DecidableEq

namespace Uuid

/-- The identifier with a given number, modulo `2 ^ 128`. -/
def ofNat (number : Nat) : Uuid :=
  ⟨Vector.ofFn fun place => Text.lastHexDigit (number >>> (4 * (31 - place.val)))⟩

instance : Inhabited Uuid := ⟨ofNat 0⟩

/-- The identifier of version 4 that has given bits wherever that version leaves them open. -/
def random (high low : UInt64) : Uuid :=
  let high := (high &&& 0xFFFFFFFFFFFF0FFF) ||| 0x4000
  let low := (low &&& 0x3FFFFFFFFFFFFFFF) ||| 0x8000000000000000
  ofNat (high.toNat * UInt64.size + low.toNat)

/-- The character of a digit. -/
def digitChar (digit : Fin 16) : Char :=
  Nat.digitChar digit.val

def digitChars (uuid : Uuid) : List Char :=
  uuid.digits.toList.map digitChar

/-- Puts hyphens behind the digits 8, 12, 16 and 20. -/
def hyphenate (chars : List Char) : List Char :=
  chars.take 8 ++ '-' :: (chars.drop 8).take 4 ++ '-' :: (chars.drop 12).take 4 ++
    '-' :: (chars.drop 16).take 4 ++ '-' :: chars.drop 20

def text (uuid : Uuid) : String :=
  String.ofList (hyphenate uuid.digitChars)

/-- The first group of digits, by which an identifier is shown. -/
def short (uuid : Uuid) : String :=
  String.ofList (uuid.digitChars.take 8)

/-- Reads 32 digits. -/
def ofDigitChars? (chars : List Char) : Option Uuid := do
  let digits ← chars.mapM Text.hexDigit?
  if length_eq : digits.length = 32 then
    some ⟨⟨digits.toArray, by simpa using length_eq⟩⟩
  else none

/-- Reads the hyphenated spelling. -/
def ofHyphenated? (chars : List Char) : Option Uuid :=
  let bare := chars.filter (· != '-')
  if bare.length = 32 ∧ hyphenate bare = chars then ofDigitChars? bare else none

/-- What an identifier starts with as a URN, in letters of either case. -/
def urnMark : List Char :=
  "urn:uuid:".toList

/-- Reads an identifier spelled with or without hyphens, the former also in braces or as a URN. -/
def ofText? (text : String) : Option Uuid :=
  match text.toList with
  | '\x7b' :: rest =>
    if rest.getLast? = some '\x7d' then ofHyphenated? rest.dropLast else none
  | chars =>
    if (chars.take urnMark.length).map Char.toLower = urnMark then
      ofHyphenated? (chars.drop urnMark.length)
    else if chars.length = 32 then ofDigitChars? chars
    else ofHyphenated? chars

end Uuid

/-- The identity of an actor. -/
structure ActorId where
  uuid : Uuid
deriving DecidableEq, Inhabited

/-- The handle of a turret, which may outlive it. -/
structure TurretId where
  uuid : Uuid
deriving DecidableEq, Inhabited

def ActorId.short (id : ActorId) : String :=
  id.uuid.short

def TurretId.short (id : TurretId) : String :=
  id.uuid.short

end Rotorcraft
