import Rotorcraft.Json.Value

/-! # Writing JSON values

The compact form has no blanks. The indented form puts every item and member on a line of its own,
two blanks deeper than its container. In strings, only quotes, backslashes and control characters
are escaped.
-/

namespace Rotorcraft.Json

/-- The characters that stand for a character inside a string. -/
def escape (c : Char) : List Char :=
  if c = '"' then ['\\', '"']
  else if c = '\\' then ['\\', '\\']
  else if c = '\x08' then ['\\', 'b']
  else if c = '\t' then ['\\', 't']
  else if c = '\n' then ['\\', 'n']
  else if c = '\x0c' then ['\\', 'f']
  else if c = '\r' then ['\\', 'r']
  else if c.toNat < 0x20 then
    ['\\', 'u', '0', '0', Nat.digitChar (c.toNat / 16), Nat.digitChar (c.toNat % 16)]
  else [c]

/-- A quoted string; one that denotes no text is written as half a surrogate pair. -/
def quoted : Option String → List Char
  | some text => '"' :: text.toList.flatMap escape ++ ['"']
  | none => ['"', '\\', 'u', 'd', '8', '0', '0', '"']

/-- The digits of an integer behind its sign. -/
def integerChars (value : Int) : List Char :=
  if value < 0 then '-' :: Nat.toDigits 10 value.natAbs else Nat.toDigits 10 value.natAbs

def numberChars : JsonNumber → List Char
  | .int value => integerChars value
  | .real digits exponent => Nat.toDigits 10 digits ++ 'e' :: integerChars exponent

def scalarChars : Json → List Char
  | .null => ['n', 'u', 'l', 'l']
  | .bool true => ['t', 'r', 'u', 'e']
  | .bool false => ['f', 'a', 'l', 's', 'e']
  | .number value => numberChars value
  | .string text => quoted text
  | .array _ => ['[', ']']
  | .object _ => ['\x7b', '\x7d']

mutual

def compactChars : Json → List Char
  | .array (item :: rest) => '[' :: compactChars item ++ compactItems rest
  | .object ((name, value) :: rest) =>
    '\x7b' :: quoted name ++ ':' :: compactChars value ++ compactMembers rest
  | value => scalarChars value

/-- The items after the first one and the end of their array. -/
def compactItems : List Json → List Char
  | [] => [']']
  | item :: rest => ',' :: compactChars item ++ compactItems rest

/-- The members after the first one and the end of their object. -/
def compactMembers : List (Option String × Json) → List Char
  | [] => ['\x7d']
  | (name, value) :: rest =>
    ',' :: quoted name ++ ':' :: compactChars value ++ compactMembers rest

end

def newline (depth : Nat) : List Char :=
  '\n' :: List.replicate (2 * depth) ' '

mutual

/-- The indented text of a value inside `depth` containers. -/
def indentedChars (depth : Nat) : Json → List Char
  | .array (item :: rest) =>
    '[' :: newline (depth + 1) ++ indentedChars (depth + 1) item ++ indentedItems depth rest
  | .object ((name, value) :: rest) =>
    '\x7b' :: newline (depth + 1) ++ quoted name ++ ':' :: ' ' :: indentedChars (depth + 1) value ++
      indentedMembers depth rest
  | value => scalarChars value

/-- The items after the first one and the end of their array. -/
def indentedItems (depth : Nat) : List Json → List Char
  | [] => newline depth ++ [']']
  | item :: rest =>
    ',' :: newline (depth + 1) ++ indentedChars (depth + 1) item ++ indentedItems depth rest

/-- The members after the first one and the end of their object. -/
def indentedMembers (depth : Nat) : List (Option String × Json) → List Char
  | [] => newline depth ++ ['\x7d']
  | (name, value) :: rest =>
    ',' :: newline (depth + 1) ++ quoted name ++ ':' :: ' ' :: indentedChars (depth + 1) value ++
      indentedMembers depth rest

end

def compact (value : Json) : String :=
  String.ofList (compactChars value)

def indented (value : Json) : String :=
  String.ofList (indentedChars 0 value)

end Rotorcraft.Json
