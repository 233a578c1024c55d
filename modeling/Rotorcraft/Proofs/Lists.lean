/-! # Lists read by key and item by item

Actors are found by their identifiers and members by their names, and neither are repeated. So what is
selected by a key is one item.
-/

namespace Rotorcraft

section Keys

variable {α κ : Type} [DecidableEq κ] {list : List α} {key : α → κ}

/-- Where keys are distinct, one item has the key of an item. -/
theorem filter_key_eq_singleton (distinct : (list.map key).Nodup) {item : α} (member : item ∈ list) :
    (list.filter fun other => key other = key item) = [item] := by
  induction list with
  | nil => cases member
  | cons first rest ih =>
    obtain ⟨absent, others⟩ := List.nodup_cons.mp distinct
    obtain rfl | later := List.mem_cons.mp member
    · have none : (rest.filter fun other => key other = key item) = [] := by
        refine List.filter_eq_nil_iff.mpr fun other listed same => absent ?_
        exact List.mem_map.mpr ⟨other, listed, of_decide_eq_true same⟩
      rw [List.filter_cons, none, if_pos (decide_eq_true rfl)]
    · have differs : key first ≠ key item := fun same =>
        absent (List.mem_map.mpr ⟨item, later, same.symm⟩)
      rw [List.filter_cons_of_neg (by simpa using differs), ih others later]

/-- Where keys are distinct, what is read off the items of one key is read off one item. -/
theorem flatMap_key_eq {β : Type} (distinct : (list.map key).Nodup) {item : α} (member : item ∈ list)
    (view : α → List β) :
    (list.flatMap fun other => if key other = key item then view other else []) = view item := by
  have selected : ∀ others : List α,
      (others.flatMap fun other => if key other = key item then view other else []) =
        (others.filter fun other => key other = key item).flatMap view := by
    intro others
    induction others with
    | nil => rfl
    | cons first rest ih =>
      rw [List.flatMap_cons, ih]
      by_cases same : key first = key item <;> simp [same]
  rw [selected, filter_key_eq_singleton distinct member, List.flatMap_singleton]

end Keys

/-- Items that are read one by one are read as a list. -/
theorem mapM_map_eq_some {α β γ : Type} {write : α → β} {reader : β → Option γ} {result : α → γ}
    {values : List α} (back : ∀ value ∈ values, reader (write value) = some (result value)) :
    (values.map write).mapM reader = some (values.map result) := by
  induction values with
  | nil => rfl
  | cons value rest ih =>
    have first := back value List.mem_cons_self
    have others := ih fun value mem => back value (List.mem_cons_of_mem _ mem)
    rw [List.map_cons, List.mapM_cons, first, others]
    rfl

end Rotorcraft
