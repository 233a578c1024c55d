import Mathlib.Data.List.Nodup
import Rotorcraft.Proofs.Operation
import Rotorcraft.Proofs.Passes

/-! # The event log as a history

An unlimited log tells the whole story of an engine: its events stand in the order of their ticks, every
actor is spawned before anything else is said about it and is not mentioned again after it was
despawned, and those in between are the live ones. `History` says this of a list of events; every
operation appends to the log what keeps it true.
-/

namespace Rotorcraft

def spawnedIds (events : List Event) : List ActorId :=
  events.filterMap (·.kind.spawned?)

def despawnedIds (events : List Event) : List ActorId :=
  events.filterMap (·.kind.despawned?)

@[simp] theorem spawnedIds_append (earlier later : List Event) :
    spawnedIds (earlier ++ later) = spawnedIds earlier ++ spawnedIds later :=
  List.filterMap_append

@[simp] theorem despawnedIds_append (earlier later : List Event) :
    despawnedIds (earlier ++ later) = despawnedIds earlier ++ despawnedIds later :=
  List.filterMap_append

namespace EventKind

theorem spawned?_eq_some_iff {kind : EventKind} {id : ActorId} :
    kind.spawned? = some id ↔ kind = .spawned id := by
  cases kind <;> simp [spawned?]

theorem despawned?_eq_some_iff {kind : EventKind} {id : ActorId} :
    kind.despawned? = some id ↔ kind = .despawned id := by
  cases kind <;> simp [despawned?]

theorem involves_iff {kind : EventKind} {id : ActorId} : kind.involves id = true ↔ id ∈ kind.actors := by
  rw [involves, List.contains_iff_mem]

theorem involves_despawned (id : ActorId) : (despawned id).involves id = true :=
  involves_iff.mpr (List.mem_singleton_self id)

end EventKind

theorem mem_spawnedIds_iff {events : List Event} {id : ActorId} :
    id ∈ spawnedIds events ↔ ∃ event ∈ events, event.kind = .spawned id := by
  simp only [spawnedIds, List.mem_filterMap, EventKind.spawned?_eq_some_iff]

theorem mem_despawnedIds_iff {events : List Event} {id : ActorId} :
    id ∈ despawnedIds events ↔ ∃ event ∈ events, event.kind = .despawned id := by
  simp only [despawnedIds, List.mem_filterMap, EventKind.despawned?_eq_some_iff]

/-- An event does not spawn an actor that an earlier one is about, and it is not about an actor that an
earlier one despawned. -/
def Event.Follows (first second : Event) : Prop :=
  ∀ id, (second.kind = .spawned id → first.kind.involves id = false) ∧
    (first.kind = .despawned id → second.kind.involves id = false)

/-- The events of an engine up to the tick `now`, after which the actors `live` are alive. -/
structure History (now : UInt64) (live : List ActorId) (events : List Event) : Prop where
  ordered : events.Pairwise fun first second => first.tick ≤ second.tick
  past : ∀ event ∈ events, event.tick ≤ now
  spawnedOnce : (spawnedIds events).Nodup
  despawnedOnce : (despawnedIds events).Nodup
  /-- Nothing is said about an actor that was not spawned. -/
  known : ∀ event ∈ events, ∀ id, event.kind.involves id = true → id ∈ spawnedIds events
  /-- Nothing is said about an actor before it is spawned or after it was despawned. -/
  within : events.Pairwise Event.Follows
  /-- Those spawned but not despawned are alive, in the order in which they were spawned. -/
  live : live = (spawnedIds events).filter fun id => id ∉ despawnedIds events

namespace History

variable {now : UInt64} {live : List ActorId} {events : List Event}

theorem empty : History 0 [] [] :=
  ⟨.nil, by simp, .nil, .nil, by simp, .nil, rfl⟩

section
variable (history : History now live events)
include history

theorem mem_live_iff {id : ActorId} :
    id ∈ live ↔ id ∈ spawnedIds events ∧ id ∉ despawnedIds events := by
  rw [history.live, List.mem_filter, decide_eq_true_iff]

/-- Who was despawned was spawned. -/
theorem despawned_spawned {id : ActorId} (despawned : id ∈ despawnedIds events) :
    id ∈ spawnedIds events := by
  obtain ⟨event, member, kind⟩ := mem_despawnedIds_iff.mp despawned
  exact history.known event member id (kind ▸ EventKind.involves_despawned id)

/-- What may be appended to a history: events of one tick that is not past, in an order of their own,
about actors that have been spawned and have not been despawned. -/
theorem append {next : UInt64} {later : List ActorId} {new : List Event} (forward : now ≤ next)
    (ticks : ∀ event ∈ new, event.tick = next)
    (fresh : (spawnedIds (events ++ new)).Nodup) (once : (despawnedIds new).Nodup)
    (about : ∀ event ∈ new, ∀ id, event.kind.involves id = true →
      id ∈ spawnedIds (events ++ new) ∧ id ∉ despawnedIds events)
    (inside : new.Pairwise Event.Follows)
    (live : later = (spawnedIds (events ++ new)).filter fun id => id ∉ despawnedIds (events ++ new)) :
    History next later (events ++ new) where
  ordered := by
    refine List.pairwise_append.mpr ⟨history.ordered, ?_, fun first early second late => ?_⟩
    · refine List.pairwise_of_forall_mem_list fun first early second late => ?_
      rw [ticks first early, ticks second late]
      exact UInt64.le_refl next
    · rw [ticks second late]
      exact UInt64.le_trans (history.past first early) forward
  past event member := by
    obtain early | late := List.mem_append.mp member
    · exact UInt64.le_trans (history.past event early) forward
    · rw [ticks event late]
      exact UInt64.le_refl next
  spawnedOnce := fresh
  despawnedOnce := by
    rw [despawnedIds_append]
    refine history.despawnedOnce.append once fun id early late => ?_
    obtain ⟨event, member, kind⟩ := mem_despawnedIds_iff.mp late
    exact (about event member id (kind ▸ EventKind.involves_despawned id)).2 early
  known event member id involved := by
    obtain early | late := List.mem_append.mp member
    · rw [spawnedIds_append]
      exact List.mem_append_left _ (history.known event early id involved)
    · exact (about event late id involved).1
  within := by
    refine List.pairwise_append.mpr ⟨history.within, inside, fun first early second late id => ?_⟩
    constructor
    · intro spawned
      rw [Bool.eq_false_iff]
      intro involved
      have old := history.known first early id involved
      have new := mem_spawnedIds_iff.mpr ⟨second, late, spawned⟩
      rw [spawnedIds_append] at fresh
      exact List.disjoint_of_nodup_append fresh old new
    · intro despawned
      rw [Bool.eq_false_iff]
      intro involved
      exact (about second late id involved).2 (mem_despawnedIds_iff.mpr ⟨first, early, despawned⟩)
  live := live

theorem spawn {id : ActorId} (fresh : id ∉ spawnedIds events) (text : String) :
    History now (live ++ [id]) (events ++ [⟨now, .spawned id, text⟩]) := by
  have spawned : spawnedIds [⟨now, .spawned id, text⟩] = [id] := rfl
  have none : despawnedIds [⟨now, .spawned id, text⟩] = [] := rfl
  have undead : id ∉ despawnedIds events := mt history.despawned_spawned fresh
  refine history.append (UInt64.le_refl now) ?_ ?_ ?_ ?_ (List.pairwise_singleton _ _) ?_
  · simp
  · rw [spawnedIds_append, spawned]
    exact history.spawnedOnce.append (List.nodup_singleton id) (by simpa using fresh)
  · rw [none]
    exact .nil
  · intro event member other involved
    obtain rfl := List.mem_singleton.mp member
    obtain rfl := List.mem_singleton.mp (EventKind.involves_iff.mp involved)
    rw [spawnedIds_append, spawned]
    exact ⟨List.mem_append_right _ (List.mem_singleton_self other), undead⟩
  · rw [spawnedIds_append, spawned, despawnedIds_append, none, List.append_nil, List.filter_append,
      ← history.live]
    simp [undead]

theorem despawn {id : ActorId} (alive : id ∈ live) (text : String) :
    History now (live.erase id) (events ++ [⟨now, .despawned id, text⟩]) := by
  have none : spawnedIds [⟨now, .despawned id, text⟩] = [] := rfl
  have despawned : despawnedIds [⟨now, .despawned id, text⟩] = [id] := rfl
  refine history.append (UInt64.le_refl now) ?_ ?_ ?_ ?_ (List.pairwise_singleton _ _) ?_
  · simp
  · rw [spawnedIds_append, none, List.append_nil]
    exact history.spawnedOnce
  · rw [despawned]
    exact List.nodup_singleton id
  · intro event member other involved
    obtain rfl := List.mem_singleton.mp member
    obtain rfl := List.mem_singleton.mp (EventKind.involves_iff.mp involved)
    rw [spawnedIds_append, none, List.append_nil]
    exact history.mem_live_iff.mp alive
  · have distinct : live.Nodup := history.live ▸ history.spawnedOnce.filter _
    rw [distinct.erase_eq_filter, history.live, spawnedIds_append, none, List.append_nil,
      despawnedIds_append, despawned, List.filter_filter]
    refine List.filter_congr fun other _ => ?_
    simp [bne, and_comm, beq_eq_decide]

/-- The next tick passes, in which nobody comes or goes. -/
theorem tick {new : List Event} (room : now.toNat + 1 < UInt64.size)
    (ticks : ∀ event ∈ new, event.tick = now + 1)
    (spawned : spawnedIds new = []) (despawned : despawnedIds new = [])
    (about : ∀ event ∈ new, ∀ id, event.kind.involves id = true → id ∈ live) :
    History (now + 1) live (events ++ new) := by
  have forward : now ≤ now + 1 := by
    rw [UInt64.le_iff_toNat_le, UInt64.toNat_add]
    simp only [UInt64.size] at room
    simp only [UInt64.reduceToNat]
    omega
  have same : spawnedIds (events ++ new) = spawnedIds events := by
    rw [spawnedIds_append, spawned, List.append_nil]
  refine history.append forward ticks ?_ ?_ ?_ ?_ ?_
  · rw [same]
    exact history.spawnedOnce
  · rw [despawned]
    exact .nil
  · intro event member id involved
    rw [same]
    exact history.mem_live_iff.mp (about event member id involved)
  · refine List.pairwise_of_forall_mem_list fun first early second late id => ⟨?_, ?_⟩
    · intro kind
      have member := mem_spawnedIds_iff.mpr ⟨second, late, kind⟩
      rw [spawned] at member
      cases member
    · intro kind
      have member := mem_despawnedIds_iff.mpr ⟨first, early, kind⟩
      rw [despawned] at member
      cases member
  · rw [same, despawnedIds_append, despawned, List.append_nil]
    exact history.live

end
end History
end Rotorcraft
