import Rotorcraft.Binary64

/-! # JSON values

The tree that a JSON text denotes. Integers are exact at any size. A string that escapes half of a
surrogate pair denotes no text, and an object keeps its members in order, repeated ones included, so
that the reader of a domain type decides what to make of either.
-/

namespace Rotorcraft

/-- A JSON number. -/
inductive JsonNumber where
  /-- A number without fraction and exponent, other than minus zero. -/
  | int (value : Int)
  /-- Any other number, by its magnitude `digits * 10 ^ exponent`. -/
  | real (digits : Nat) (exponent : Int)
deriving DecidableEq, Repr

/-- A JSON value; `none` stands for a string that denotes no text. -/
inductive Json where
  | null
  | bool (value : Bool)
  | number (value : JsonNumber)
  | string (text : Option String)
  | array (items : List Json)
  | object (members : List (Option String × Json))
deriving Inhabited

namespace Json

def int (value : Int) : Json :=
  .number (.int value)

def text (text : String) : Json :=
  .string (some text)

/-- The object whose members have the given names. -/
def record (members : List (String × Json)) : Json :=
  .object (members.map fun member => (some member.1, member.2))

def member? (json : Json) (name : String) : Option Json :=
  match json with
  | .object members => (members.find? fun member => member.1 == some name).map (·.2)
  | _ => none

/-- Gives every member of an object that has the given name a value; without such a member, adds
one at the end. -/
def setMember (json : Json) (name : String) (value : Json) : Json :=
  match json with
  | .object members =>
    if members.any fun member => member.1 == some name then
      .object (members.map fun member =>
        if member.1 == some name then (member.1, value) else member)
    else .object (members ++ [(some name, value)])
  | json => json

mutual

/-- How many containers are nested in a value. -/
def depth : Json → Nat
  | .array items => itemsDepth items + 1
  | .object members => membersDepth members + 1
  | _ => 0

def itemsDepth : List Json → Nat
  | [] => 0
  | item :: rest => max item.depth (itemsDepth rest)

def membersDepth : List (Option String × Json) → Nat
  | [] => 0
  | (_, value) :: rest => max value.depth (membersDepth rest)

end

end Json

/-- Whether a number is read as infinity in 64-bit binary floating point. -/
def JsonNumber.isInfinite : JsonNumber → Bool
  | .int value => Binary64.isInfinite value.natAbs 0
  | .real digits exponent => Binary64.isInfinite digits exponent

namespace Json

mutual

/-- Whether every string of a value, names included, denotes a text and no number is too large. -/
def isPlain : Json → Bool
  | .number value => !value.isInfinite
  | .string text => text.isSome
  | .array items => itemsPlain items
  | .object members => membersPlain members
  | _ => true

def itemsPlain : List Json → Bool
  | [] => true
  | item :: rest => item.isPlain && itemsPlain rest

def membersPlain : List (Option String × Json) → Bool
  | [] => true
  | (name, value) :: rest => name.isSome && value.isPlain && membersPlain rest

end

end Json
end Rotorcraft
