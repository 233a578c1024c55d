import Rotorcraft.Json.Value
import Rotorcraft.Text.Hex

/-! # The tokens of a JSON text

A text is cut into tokens before its structure is read. Two values that follow each other without a
separator are two tokens, which the reader of the structure refuses; so the cut never needs to look
ahead.
-/

namespace Rotorcraft.Json

/-- A token of JSON text. -/
inductive Token where
  | beginArray
  | endArray
  | beginObject
  | endObject
  | comma
  | colon
  | null
  | bool (value : Bool)
  | number (value : JsonNumber)
  | string (text : Option String)
deriving DecidableEq, Repr

/-- The characters that may stand between tokens. -/
def isSpace (c : Char) : Bool :=
  c == ' ' || c == '\t' || c == '\n' || c == '\r'

def isDigit (c : Char) : Bool :=
  '0' ≤ c && c ≤ '9'

/-- The number that decimal digits denote. -/
def ofDigits (digits : List Char) : Nat :=
  Nat.ofDigitChars 10 digits 0

/-- Reads a nonempty run of digits. -/
def scanDigits (text : List Char) : Option (List Char × List Char) :=
  let digits := text.takeWhile isDigit
  if digits.isEmpty then none else some (digits, text.dropWhile isDigit)

/-- Reads an integer part: a lone zero, or digits that do not start with zero. -/
def scanInteger : List Char → Option (List Char × List Char)
  | '0' :: rest => some (['0'], rest)
  | text => scanDigits text

def scanFraction : List Char → Option (Option (List Char) × List Char)
  | '.' :: rest => (scanDigits rest).map fun (digits, rest) => (some digits, rest)
  | text => some (none, text)

def scanPower (negative : Bool) (text : List Char) : Option (Option Int × List Char) :=
  (scanDigits text).map fun (digits, rest) =>
    (some (if negative then -(ofDigits digits : Int) else ofDigits digits), rest)

def scanSignedPower : List Char → Option (Option Int × List Char)
  | '+' :: rest => scanPower false rest
  | '-' :: rest => scanPower true rest
  | text => scanPower false text

/-- Reads an exponent, if there is one. -/
def scanExponent : List Char → Option (Option Int × List Char)
  | 'e' :: rest => scanSignedPower rest
  | 'E' :: rest => scanSignedPower rest
  | text => some (none, text)

def numberOf (negative : Bool) (integer : List Char) (fraction : Option (List Char))
    (exponent : Option Int) : JsonNumber :=
  match fraction, exponent with
  | none, none =>
    let value := ofDigits integer
    if negative then if value = 0 then .real 0 0 else .int (-value) else .int value
  | _, _ =>
    let decimals := fraction.getD []
    .real (ofDigits (integer ++ decimals)) (exponent.getD 0 - decimals.length)

def scanNumber (negative : Bool) (text : List Char) : Option (Token × List Char) := do
  let (integer, rest) ← scanInteger text
  let (fraction, rest) ← scanFraction rest
  let (exponent, rest) ← scanExponent rest
  pure (.number (numberOf negative integer fraction exponent), rest)

/-- A unit of a string literal: a character, or a 16-bit unit given by its number. -/
inductive LiteralUnit where
  | char (c : Char)
  | code (word : Nat)
deriving DecidableEq, Repr

/-- The character that a one-letter escape stands for. -/
def escaped? : Char → Option Char
  | '"' => some '"'
  | '\\' => some '\\'
  | '/' => some '/'
  | 'b' => some '\x08'
  | 'f' => some '\x0c'
  | 'n' => some '\n'
  | 'r' => some '\r'
  | 't' => some '\t'
  | _ => none

/-- Reads the units of a string literal up to its closing quote. -/
def scanUnits : List Char → Option (List LiteralUnit × List Char)
  | '"' :: rest => some ([], rest)
  | '\\' :: 'u' :: a :: b :: c :: d :: rest => do
    let word ← Text.readHex? [a, b, c, d]
    let (units, rest) ← scanUnits rest
    pure (.code word :: units, rest)
  | '\\' :: letter :: rest => do
    let c ← escaped? letter
    let (units, rest) ← scanUnits rest
    pure (.char c :: units, rest)
  | c :: rest =>
    if c.toNat < 0x20 then none
    else do
      let (units, rest) ← scanUnits rest
      pure (.char c :: units, rest)
  | [] => none

/-- Whether a 16-bit unit is the first half of a surrogate pair. -/
def isHighSurrogate (word : Nat) : Bool :=
  0xD800 ≤ word && word < 0xDC00

/-- Whether a 16-bit unit is the second half of a surrogate pair. -/
def isLowSurrogate (word : Nat) : Bool :=
  0xDC00 ≤ word && word < 0xE000

/-- The text that units denote, if each half of a surrogate pair has its other half. -/
def textOfUnits? : List LiteralUnit → Option (List Char)
  | [] => some []
  | .char c :: rest => (textOfUnits? rest).map (c :: ·)
  | .code high :: .code low :: rest =>
    if isHighSurrogate high then
      if isLowSurrogate low then
        (textOfUnits? rest).map
          (Char.ofNat (0x10000 + (high - 0xD800) * 0x400 + (low - 0xDC00)) :: ·)
      else none
    else if isLowSurrogate high then none
    else (textOfUnits? (.code low :: rest)).map (Char.ofNat high :: ·)
  | .code single :: rest =>
    if isHighSurrogate single || isLowSurrogate single then none
    else (textOfUnits? rest).map (Char.ofNat single :: ·)

/-- Reads a string behind its opening quote. -/
def scanString (text : List Char) : Option (Option String × List Char) :=
  (scanUnits text).map fun (units, rest) => ((textOfUnits? units).map String.ofList, rest)

/-- Reads the token that starts with a given character. -/
def scan : Char → List Char → Option (Token × List Char)
  | '[', rest => some (.beginArray, rest)
  | ']', rest => some (.endArray, rest)
  | '\x7b', rest => some (.beginObject, rest)
  | '\x7d', rest => some (.endObject, rest)
  | ',', rest => some (.comma, rest)
  | ':', rest => some (.colon, rest)
  | '"', rest => (scanString rest).map fun (text, rest) => (.string text, rest)
  | 'n', 'u' :: 'l' :: 'l' :: rest => some (.null, rest)
  | 't', 'r' :: 'u' :: 'e' :: rest => some (.bool true, rest)
  | 'f', 'a' :: 'l' :: 's' :: 'e' :: rest => some (.bool false, rest)
  | '-', rest => scanNumber true rest
  | c, rest => if isDigit c then scanNumber false (c :: rest) else none

/-- The tokens of a text, if it has at most `fuel` characters. -/
def tokensWithin : Nat → List Char → Option (List Token)
  | _, [] => some []
  | 0, _ :: _ => none
  | fuel + 1, c :: rest =>
    if isSpace c then tokensWithin fuel rest
    else do
      let (token, rest) ← scan c rest
      let tokens ← tokensWithin fuel rest
      pure (token :: tokens)

/-- The tokens of a text; every one takes at least one character. -/
def tokens? (text : List Char) : Option (List Token) :=
  tokensWithin text.length text

end Rotorcraft.Json
