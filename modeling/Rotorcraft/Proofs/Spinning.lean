import Rotorcraft.Proofs.Banking
import Rotorcraft.Proofs.Chronicle
import Rotorcraft.Proofs.Lives
import Rotorcraft.Proofs.Procedures

/-! # Spinning

Every turn of an actor adds its spin to its orientation, and nothing else touches the roll. The heading is left to
the spin as well, unless the actor is attracted and its handle leads to a turret. Directions are residues, so that
what many turns add up to is the sum of their amounts, reduced once, in whichever order they come.
-/

namespace Rotorcraft

namespace Angle

def amount : List Int16 → Int
  | [] => 0
  | delta :: rest => delta.toInt + amount rest

theorem amount_replicate (count : Nat) (delta : Int16) :
    amount (List.replicate count delta) = count * delta.toInt := by
  induction count with
  | zero => exact (Int.zero_mul _).symm
  | succ count ih =>
    rw [List.replicate_succ, amount, ih, Int.natCast_succ, Int.add_mul, Int.one_mul, Int.add_comm]

theorem amount_perm {deltas others : List Int16} (same : deltas.Perm others) : amount deltas = amount others := by
  induction same with
  | nil => rfl
  | cons delta _ ih => rw [amount, amount, ih]
  | swap first second rest =>
    simp only [amount]
    omega
  | trans _ _ left right => exact left.trans right

/-- Turns one after the other come to their whole amount, reduced once. -/
theorem toInt_rotateAll (angle : Angle) (deltas : List Int16) :
    (angle.rotateAll deltas).toInt = (angle.toInt + amount deltas) % 4096 := by
  induction deltas generalizing angle with
  | nil =>
    have range := angle.toInt_range
    rw [amount, Int.add_zero, Int.emod_eq_of_lt range.1 range.2]
    rfl
  | cons delta rest ih =>
    have first : angle.rotateAll (delta :: rest) = (angle.rotate delta).rotateAll rest := rfl
    rw [first, ih, toInt_rotate, Int.emod_add_emod, amount, Int.add_assoc]

/-- The order of the turns does not matter. -/
theorem rotateAll_perm (angle : Angle) {deltas others : List Int16} (same : deltas.Perm others) :
    angle.rotateAll deltas = angle.rotateAll others := by
  apply toInt_injective
  rw [toInt_rotateAll, toInt_rotateAll, amount_perm same]

theorem rotateAll_replicate_succ (angle : Angle) (count : Nat) (delta : Int16) :
    angle.rotateAll (List.replicate (count + 1) delta) =
      (angle.rotateAll (List.replicate count delta)).rotate delta := by
  rw [List.replicate_succ', rotateAll, List.foldl_append]
  rfl

end Angle

namespace Orientation

def accumulateAll (orientation : Orientation) (spins : List Spin) : Orientation :=
  spins.foldl accumulate orientation

theorem accumulateAll_eq (orientation : Orientation) (spins : List Spin) : orientation.accumulateAll spins =
    ⟨orientation.yaw.rotateAll (spins.map (·.yaw)), orientation.roll.rotateAll (spins.map (·.roll))⟩ := by
  induction spins generalizing orientation with
  | nil => rfl
  | cons spin rest ih => exact ih (orientation.accumulate spin)

/-- Both angles come to the sum of what the spins add to them, whatever their order. -/
structure Accumulates (orientation : Orientation) (spins : List Spin) : Prop where
  yaw : (orientation.accumulateAll spins).yaw.toInt =
    (orientation.yaw.toInt + Angle.amount (spins.map (·.yaw))) % 4096
  roll : (orientation.accumulateAll spins).roll.toInt =
    (orientation.roll.toInt + Angle.amount (spins.map (·.roll))) % 4096
  reordered : ∀ others, spins.Perm others → orientation.accumulateAll others = orientation.accumulateAll spins

theorem accumulates (orientation : Orientation) (spins : List Spin) : orientation.Accumulates spins where
  yaw := by
    rw [accumulateAll_eq]
    exact Angle.toInt_rotateAll _ _
  roll := by
    rw [accumulateAll_eq]
    exact Angle.toInt_rotateAll _ _
  reordered others same := by
    rw [accumulateAll_eq, accumulateAll_eq, orientation.yaw.rotateAll_perm (same.map (·.yaw)),
      orientation.roll.rotateAll_perm (same.map (·.roll))]

end Orientation

/-- A turn without aim: the actor is not attracted, or its handle is empty or leads nowhere. -/
def Turn.Coasts (turn : Turn) : Prop :=
  turn.before.hasFlag .attractionActive = false ∨ turn.frame.turret? turn.before = none

instance (turn : Turn) : Decidable turn.Coasts :=
  inferInstanceAs (Decidable (_ ∨ _))

namespace MotionStage

variable (frame : Frame) (counters : MotionCounters) (actor : Actor)

/-- Attraction does not touch the roll. -/
theorem roll_run : (run frame counters actor).2.actor.orientation.roll =
    actor.orientation.roll.rotate actor.spin.roll := by
  rw [run_actor]
  split
  · rw [attracted]
    split <;> rfl
  · rfl

/-- Without aim, the heading only turns. -/
theorem yaw_run_of_unaimed (unaimed : actor.hasFlag .attractionActive = false ∨ frame.turret? actor = none) :
    (run frame counters actor).2.actor.orientation.yaw = actor.orientation.yaw.rotate actor.spin.yaw := by
  rw [run_actor]
  split
  · next active =>
    obtain inactive | dead := unaimed
    · rw [inactive] at active
      cases active
    · have nowhere : frame.turret? (turn actor) = none := dead
      rw [attracted, nowhere]
      rfl
  · rfl

end MotionStage

namespace Actor

variable {frame : Frame} {actor : Actor}

/-- In a tick, the motion stage alone writes the orientation, and it finds what it reads as it was before. -/
theorem orientation_ticked (frame : Frame) (actor : Actor) : (actor.ticked frame).orientation =
    (MotionStage.run frame {} (TimerStage.advance actor)).2.actor.orientation := by
  obtain ⟨_, _, _, _, finish⟩ := (actor.moved frame).exists_finished frame
  rw [ticked, finish, moved, TimerStage.run_actor]

theorem orientation_advance (actor : Actor) : (TimerStage.advance actor).orientation = actor.orientation := by
  rw [TimerStage.advance_eq]

theorem roll_ticked (frame : Frame) (actor : Actor) :
    (actor.ticked frame).orientation.roll = actor.orientation.roll.rotate actor.spin.roll := by
  rw [orientation_ticked, MotionStage.roll_run, orientation_advance, (TimerStage.advance_persists actor).spin]

theorem yaw_ticked_of_unaimed
    (unaimed : actor.hasFlag .attractionActive = false ∨ frame.turret? actor = none) :
    (actor.ticked frame).orientation.yaw = actor.orientation.yaw.rotate actor.spin.yaw := by
  have kept := TimerStage.advance_persists actor
  have active : (TimerStage.advance actor).hasFlag .attractionActive = actor.hasFlag .attractionActive :=
    kept.flags.intersects_eq (by decide)
  have handle : frame.turret? (TimerStage.advance actor) = frame.turret? actor := by
    rw [Frame.turret?, kept.turret]
    rfl
  rw [← active, ← handle] at unaimed
  rw [orientation_ticked, MotionStage.yaw_run_of_unaimed _ _ _ unaimed, orientation_advance, kept.spin]

/-- The spin and the orientation of an actor that has taken its turns since `start`. -/
structure Spins (start actor : Actor) (past : List Turn) : Prop where
  spin : actor.spin = start.spin
  roll : actor.orientation.roll =
    start.orientation.roll.rotateAll (List.replicate past.length start.spin.roll)
  yaw : (∀ turn ∈ past, turn.Coasts) → actor.orientation.yaw =
    start.orientation.yaw.rotateAll (List.replicate past.length start.spin.yaw)

theorem Spins.ticked {start : Actor} {past : List Turn} (spins : start.Spins actor past) (pass : Pass) :
    start.Spins (actor.ticked frame) (past ++ [⟨frame, actor, pass⟩]) where
  spin := by
    rw [← spins.spin, ← Pipeline.run_standard_actor Pipeline.isStandard_standard]
    exact (Pipeline.run_persists Pipeline.isStandard_standard actor).spin
  roll := by
    rw [roll_ticked, spins.roll, spins.spin, List.length_append, List.length_singleton,
      Angle.rotateAll_replicate_succ]
  yaw coasts := by
    obtain ⟨before, last⟩ := List.forall_mem_append.mp coasts
    have now : Turn.Coasts ⟨frame, actor, pass⟩ := List.forall_mem_singleton.mp last
    rw [yaw_ticked_of_unaimed now, spins.yaw before, spins.spin, List.length_append, List.length_singleton,
      Angle.rotateAll_replicate_succ]

end Actor

def Operation.removed? : Operation → Option ActorId
  | .despawn id => some id
  | _ => none

namespace Engine

/-- A live actor stays live until it is removed. -/
theorem mem_ids_perform {engine : Engine} {operation : Operation} {id : ActorId} (live : id ∈ engine.ids)
    (spared : operation.removed? ≠ some id) : id ∈ (engine.perform operation).ids := by
  cases engine.writes_perform operation with
  | quiet instant log clock ids => rwa [ids]
  | spawned text log clock ids =>
    rw [ids]
    exact List.mem_append_left _ live
  | despawned alive text log clock ids =>
    rw [ids]
    refine (List.mem_erase_of_ne ?_).mpr live
    exact fun same => spared (congrArg some same.symm)
  | ticked answers => rwa [perform, ids_tickWith]
  | ran answers =>
    exact runWith_keeps (P := fun later => id ∈ later.ids)
      (fun later given kept => by rwa [ids_tickWith]) live answers

theorem mem_ids_performAll {engine : Engine} {operations : List Operation} {id : ActorId}
    (live : id ∈ engine.ids) (spared : ∀ operation ∈ operations, operation.removed? ≠ some id) :
    id ∈ (engine.performAll operations).ids := by
  induction operations generalizing engine with
  | nil => exact live
  | cons operation rest ih =>
    obtain ⟨first, others⟩ := List.forall_mem_cons.mp spared
    exact ih (mem_ids_perform live first) others

/-- A live actor, with the turns that it takes during operations which neither rewrite nor remove it. -/
theorem spins_performAll {start : Engine} (standard : start.IsStandard) {operations : List Operation}
    (fresh : (start.ids ++ drawnIds operations).Nodup) {actor : Actor} (live : actor ∈ start.actors)
    (undrawn : actor.id ∉ drawnIds operations)
    (unedited : ∀ operation ∈ operations, operation.edited? ≠ some actor.id)
    {after : Actor} (member : after ∈ (start.performAll operations).actors) (same : after.id = actor.id) :
    actor.Spins after (turnsOf actor.id (start.moments operations)) := by
  have distinct : start.ids.Nodup := (List.nodup_append.mp fresh).1
  have lives : start.Lives start.config actor.id (fun _ => True) (fun past now => actor.Spins now past) [] := by
    refine ⟨standard, rfl, distinct, trivial, fun other found shared => ?_⟩
    obtain rfl := List.inj_on_of_nodup_map distinct found live shared
    exact ⟨rfl, rfl, fun _ => rfl⟩
  have later := lives.performAll fresh undrawn unedited ?_ ?_ ?_
  · exact later.record after member same
  · intro past frame now _ _ _ spins turn
    have ticked : turn.after = now.ticked frame :=
      (Pipeline.pass_actor ..).trans (Pipeline.run_standard_actor Pipeline.isStandard_standard)
    refine ⟨trivial, ?_⟩
    rw [ticked]
    exact spins.ticked _
  · exact fun past now spins => ⟨spins.spin, spins.roll, spins.yaw⟩
  · exact fun past now handle spins => ⟨spins.spin, spins.roll, spins.yaw⟩

/-- Spins accumulate to their sum in whichever order they come. So as long as nobody rewrites or removes it, a live
actor takes one turn in every tick, and after them its roll has turned by as many spins; its heading, too, if it had
no aim in any of these turns. -/
theorem spins_accumulate :
    (∀ (orientation : Orientation) (spins : List Spin), orientation.Accumulates spins) ∧
      ∀ (start : Engine) (operations : List Operation) (actor : Actor), start.IsStandard →
        (start.ids ++ drawnIds operations).Nodup → actor ∈ start.actors →
        (∀ operation ∈ operations, operation.edited? ≠ some actor.id ∧ operation.removed? ≠ some actor.id) →
        let turns := turnsOf actor.id (start.moments operations)
        let count := ticksOf operations
        turns.length = count ∧
          ∃ after, (start.performAll operations).actor? actor.id = some after ∧
            after.orientation.roll.toInt =
              (actor.orientation.roll.toInt + count * actor.spin.roll.toInt) % 4096 ∧
            ((∀ turn ∈ turns, turn.Coasts) → after.orientation.yaw.toInt =
              (actor.orientation.yaw.toInt + count * actor.spin.yaw.toInt) % 4096) := by
  refine ⟨Orientation.accumulates, ?_⟩
  intro start operations actor standard fresh live kept turns count
  have stillLive : actor.id ∈ (start.performAll operations).ids :=
    mem_ids_performAll (List.mem_map_of_mem live) fun operation performed => (kept operation performed).2
  have undrawn : actor.id ∉ drawnIds operations :=
    fun drawn => (List.nodup_append.mp fresh).2.2 _ (List.mem_map_of_mem live) _ drawn rfl
  have taken : turns.length = count :=
    ((TakesTurns.performAll fresh undrawn).every stillLive).trans (length_moments start operations)
  obtain ⟨after, found⟩ : ∃ after, (start.performAll operations).actor? actor.id = some after := by
    refine Option.ne_none_iff_exists'.mp (mt actor?_eq_none_iff.mp ?_)
    exact not_not_intro stillLive
  have same := List.find?_some found
  have spins : actor.Spins after turns :=
    spins_performAll standard fresh live undrawn (fun operation performed => (kept operation performed).1)
      (List.mem_of_find?_eq_some found) (beq_iff_eq.mp same)
  refine ⟨taken, after, found, ?_, fun coasts => ?_⟩
  · rw [spins.roll, Angle.toInt_rotateAll, Angle.amount_replicate, taken]
  · rw [spins.yaw coasts, Angle.toInt_rotateAll, Angle.amount_replicate, taken]

/-- An actor whose turret was removed and whose divisions are all refused spins on, more than a turn with every
tick and against the sense of its heading. -/
theorem spins_accumulate_unaimed :
    let spinner : Actor :=
      { id := ⟨.ofNat 1⟩
        name := "spinner"
        orientation := { yaw := .ofInt 4000, roll := .ofInt 5 }
        spin := { yaw := -5000, roll := 12345 }
        flags := .attractionActive
        status := ⟨0x0100⟩
        turret := some ⟨.ofNat 9⟩ }
    let start : Engine :=
      { actors := [{ id := ⟨.ofNat 2⟩, name := "other" }, spinner]
        turrets := ⟨[(⟨.ofNat 9⟩, ⟨.ofInt 100⟩)]⟩
        config := { pursuitDivisor := 0 }
        stages := Stage.standard }
    let operations : List Operation :=
      [.removeTurret ⟨.ofNat 9⟩, .tick fun _ => {}, .despawn ⟨.ofNat 2⟩, .acknowledge ⟨.ofNat 1⟩,
        .run [fun _ => {}, fun _ => {}]]
    let turns := turnsOf ⟨.ofNat 1⟩ (start.moments operations)
    turns.map (·.pass.error.isSome) = [true, true, true] ∧ (∀ turn ∈ turns, turn.Coasts) ∧
      ∃ after, (start.performAll operations).actor? ⟨.ofNat 1⟩ = some after ∧
        after.orientation.roll.toInt = 176 ∧ after.orientation.yaw.toInt = 1288 := by
  intro spinner start operations turns
  have coasts : ∀ turn ∈ turns, turn.Coasts := by decide
  refine ⟨by decide, coasts, ?_⟩
  obtain ⟨_, after, found, roll, yaw⟩ :=
    spins_accumulate.2 start operations spinner rfl (by decide) (by simp [start]) (by decide)
  exact ⟨after, found, roll.trans (by decide), (yaw coasts).trans (by decide)⟩

end Engine
end Rotorcraft
