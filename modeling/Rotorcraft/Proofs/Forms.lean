import Rotorcraft.Form.Basic
import Rotorcraft.Proofs.Lists

/-! # Faithful forms

A form is faithful if its reader takes back everything that its writer writes. Integers and texts are
so on their own, and optional values, lists and records as soon as their parts are.
-/

namespace Rotorcraft

/-- A type whose written values are read as themselves. -/
class Faithful (α : Type) [JsonForm α] : Prop where
  read?_write : ∀ value : α, read? (write value) = some value

namespace Form

open Faithful

theorem readIntIn?_int {low high value : Int} (least : low ≤ value) (most : value ≤ high) :
    readIntIn? low high (.int value) = some value := by
  show (some value).filter _ = some value
  rw [Option.filter_some, if_pos]
  simp [least, most]

instance : Faithful UInt8 where
  read?_write value := by
    have bound := value.toNat_lt
    show (readIntIn? 0 255 (.int value.toNat)).map _ = _
    rw [readIntIn?_int (by omega) (by omega), Option.map_some, Int.toNat_natCast, UInt8.ofNat_toNat]

instance : Faithful UInt16 where
  read?_write value := by
    have bound := value.toNat_lt
    show (readIntIn? 0 65535 (.int value.toNat)).map _ = _
    rw [readIntIn?_int (by omega) (by omega), Option.map_some, Int.toNat_natCast, UInt16.ofNat_toNat]

instance : Faithful UInt64 where
  read?_write value := by
    have bound := value.toNat_lt
    show (readIntIn? 0 18446744073709551615 (.int value.toNat)).map _ = _
    rw [readIntIn?_int (by omega) (by omega), Option.map_some, Int.toNat_natCast, UInt64.ofNat_toNat]

instance : Faithful Int16 where
  read?_write value := by
    have least := value.le_toInt
    have most := value.toInt_lt
    show (readIntIn? (-32768) 32767 (.int value.toInt)).map _ = _
    rw [readIntIn?_int (by omega) (by omega), Option.map_some, Int16.ofInt_toInt]

instance : Faithful Int32 where
  read?_write value := by
    have least := value.le_toInt
    have most := value.toInt_lt
    show (readIntIn? (-2147483648) 2147483647 (.int value.toInt)).map _ = _
    rw [readIntIn?_int (by omega) (by omega), Option.map_some, Int32.ofInt_toInt]

instance : Faithful String where
  read?_write _ := rfl

variable {α : Type} [JsonForm α]

/-- Anything but null is read as an optional value that is there. -/
theorem read?_option {json : Json} (present : json ≠ .null) :
    (read? json : Option (Option α)) = (read? json).map some := by
  cases json with
  | null => exact absurd rfl present
  | _ => rfl

/-- An optional value is faithful if no value is written like its absence. -/
theorem faithful_option [Faithful α] (present : ∀ value : α, write value ≠ .null) :
    Faithful (Option α) where
  read?_write
    | none => rfl
    | some value => by
      show (read? (write value) : Option (Option α)) = some (some value)
      rw [read?_option (present value), read?_write]
      rfl

instance [Faithful α] : Faithful (List α) where
  read?_write values := by
    have read : (values.map write).mapM read? = some (values.map id) :=
      mapM_map_eq_some fun value _ => read?_write value
    rw [List.map_id] at read
    exact read

/-- A value is the only one under its name if no name is repeated. -/
theorem unique?_of_mem {name : String} {value : Json} {members : List (String × Json)}
    (distinct : (members.map (·.1)).Nodup) (mem : (name, value) ∈ members) :
    unique? name (members.map fun member => (some member.1, member.2)) = some (some value) := by
  have found := filter_key_eq_singleton distinct mem
  have selected : (members.map fun member => (some member.1, member.2)).filter
      (fun member => member.1 == some name) =
        (members.filter fun other => other.1 = name).map fun member => (some member.1, member.2) := by
    rw [List.filter_map]
    refine congrArg _ (List.filter_congr fun member _ => ?_)
    rw [Bool.eq_iff_iff]
    simp
  rw [unique?, selected, found]
  rfl

/-- The members of a record are found under their names, in declared order. -/
theorem members?_record {names : List String} {values : List Json} (defaults : Bool)
    (distinct : names.Nodup) (length : names.length = values.length) :
    members? names defaults (.record (names.zip values)) = some (values.map some) := by
  have firsts : (names.zip values).map (·.1) = names := List.map_fst_zip (by omega)
  have seconds : (names.zip values).map (·.2) = values := List.map_snd_zip (by omega)
  have valued : ((names.zip values).map fun member => (some member.1, member.2)).all
      (fun member => member.1.isSome) = true := by simp
  have found : ((names.zip values).map (·.1)).mapM (fun name => unique? name
      ((names.zip values).map fun member => (some member.1, member.2))) =
        some ((names.zip values).map fun member => some member.2) :=
    mapM_map_eq_some fun member mem => unique?_of_mem (by rwa [firsts]) mem
  rw [firsts] at found
  show namedMembers? names ((names.zip values).map fun member => (some member.1, member.2)) = _
  rw [namedMembers?, if_pos valued, found]
  calc
    some ((names.zip values).map fun member => some member.2) =
        some (((names.zip values).map (·.2)).map some) := by rw [List.map_map]; rfl
    _ = some (values.map some) := by rw [seconds]

/-- A record is read back if the values of its members are. -/
theorem read_record {β : Type} {build : List (Option Json) → Option β} {value : β}
    (names : List String) (values : List Json) (defaults : Bool) (distinct : names.Nodup)
    (length : names.length = values.length) (built : build (values.map some) = some value) :
    (members? names defaults (.record (names.zip values))).bind build = some value := by
  rw [members?_record defaults distinct length]
  exact built

variable [Faithful α]

@[simp]
theorem required_write (value : α) : required (some (write value)) = some value := read?_write value

@[simp]
theorem orElse_write (fallback value : α) : orElse fallback (some (write value)) = some value :=
  read?_write value

end Form
end Rotorcraft
