/-! # Hexadecimal text

Numbers are written with lower-case digits and read with digits of either case. Bytes are written
as two digits each.
-/

namespace Rotorcraft.Text

/-- The lower-case digits of a number, padded with zeros to at least `width` of them. -/
def hexPadded (width number : Nat) : String :=
  let digits := Nat.toDigits 16 number
  String.ofList (List.replicate (width - digits.length) '0' ++ digits)

def lastHexDigit (number : Nat) : Fin 16 :=
  Fin.ofNat 16 number

/-- The value of one hexadecimal digit of either case. -/
def hexDigit? (c : Char) : Option (Fin 16) :=
  if '0' ≤ c ∧ c ≤ '9' then some (lastHexDigit (c.toNat - '0'.toNat))
  else if 'a' ≤ c ∧ c ≤ 'f' then some (lastHexDigit (c.toNat - 'a'.toNat + 10))
  else if 'A' ≤ c ∧ c ≤ 'F' then some (lastHexDigit (c.toNat - 'A'.toNat + 10))
  else none

/-- The number whose digits, most significant first, are the given ones. -/
def ofHexDigits (digits : List (Fin 16)) : Nat :=
  digits.foldl (fun number digit => 16 * number + digit.val) 0

/-- Reads a nonempty run of hexadecimal digits as a number. -/
def readHex? (text : List Char) : Option Nat :=
  if text.isEmpty then none else (text.mapM hexDigit?).map ofHexDigits

def hexBytes (bytes : List UInt8) : String :=
  String.join (bytes.map fun byte => hexPadded 2 byte.toNat)

/-- Reads bytes written as two digits each. -/
def readHexBytes? : List Char → Option (List UInt8)
  | [] => some []
  | high :: low :: rest => do
    let high ← hexDigit? high
    let low ← hexDigit? low
    let bytes ← readHexBytes? rest
    pure (UInt8.ofNat (16 * high.val + low.val) :: bytes)
  | [_] => none

end Rotorcraft.Text
