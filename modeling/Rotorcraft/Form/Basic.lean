import Rotorcraft.Json.Value

/-! # JSON forms

A type has a JSON form if its values can be written as JSON values and read back. Records are read
from objects, whose members come in any order and may include unknown ones, and from arrays of their
members in declared order.
-/

namespace Rotorcraft

/-- A type whose values are written as JSON values and read back. -/
class JsonForm (α : Type) where
  write : α → Json
  read? : Json → Option α

export JsonForm (write read?)

namespace Form

/-- The integer that a value is. -/
def readInt? : Json → Option Int
  | .number (.int value) => some value
  | _ => none

/-- The integer in `low .. high` that a value is. -/
def readIntIn? (low high : Int) (json : Json) : Option Int :=
  (readInt? json).filter fun value => low ≤ value && value ≤ high

instance : JsonForm UInt8 where
  write value := .int value.toNat
  read? json := (readIntIn? 0 255 json).map fun value => UInt8.ofNat value.toNat

instance : JsonForm UInt16 where
  write value := .int value.toNat
  read? json := (readIntIn? 0 65535 json).map fun value => UInt16.ofNat value.toNat

instance : JsonForm UInt64 where
  write value := .int value.toNat
  read? json := (readIntIn? 0 18446744073709551615 json).map fun value => UInt64.ofNat value.toNat

instance : JsonForm Int16 where
  write value := .int value.toInt
  read? json := (readIntIn? (-32768) 32767 json).map Int16.ofInt

instance : JsonForm Int32 where
  write value := .int value.toInt
  read? json := (readIntIn? (-2147483648) 2147483647 json).map Int32.ofInt

instance : JsonForm String where
  write := .text
  read?
    | .string text => text
    | _ => none

instance {α : Type} [JsonForm α] : JsonForm (Option α) where
  write
    | some value => write value
    | none => .null
  read?
    | .null => some none
    | json => (read? json).map some

def items? : Json → Option (List Json)
  | .array items => some items
  | _ => none

instance {α : Type} [JsonForm α] : JsonForm (List α) where
  write values := .array (values.map write)
  read? json := (items? json).bind fun items => items.mapM read?

/-- The only value under a name; `none` inside if there is none. Fails if there are several. -/
def unique? (name : String) (members : List (Option String × Json)) : Option (Option Json) :=
  match members.filter fun member => member.1 == some name with
  | [] => some none
  | [member] => some (some member.2)
  | _ => none

/-- The values of the named members. Fails if one is repeated or some name denotes no text. -/
def namedMembers? (names : List String) (members : List (Option String × Json)) :
    Option (List (Option Json)) :=
  if members.all fun member => member.1.isSome then names.mapM fun name => unique? name members
  else none

/-- The members of a record, in declared order. With `defaults`, an array may be short. -/
def members? (names : List String) (defaults : Bool) : Json → Option (List (Option Json))
  | .object members => namedMembers? names members
  | .array items =>
    if items.length = names.length ∨ (defaults ∧ items.length < names.length) then
      some (items.map some ++ List.replicate (names.length - items.length) none)
    else none
  | _ => none

variable {α : Type} [JsonForm α]

def required (member : Option Json) : Option α :=
  member.bind read?

/-- Reads a member that has a value when absent. -/
def orElse (fallback : α) : Option Json → Option α
  | none => some fallback
  | some json => read? json

end Form
end Rotorcraft
