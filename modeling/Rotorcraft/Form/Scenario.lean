import Rotorcraft.Form.Settings
import Rotorcraft.Scenario

/-! # The JSON form of a scenario

The members of an actor are its spawn parameters and, beside them, its turret. An actor has to be an
object; what its members hold besides the turret, unknown ones included, has to be plain and may not
nest too deeply.
-/

namespace Rotorcraft.Form

/-- How deeply the members of an actor may nest. -/
def actorMemberDepth : Nat := 124

/-- Whether a member of an actor can be held until the actor is complete. -/
def isHeld (member : Option String × Json) : Bool :=
  member.1 == some "turret" || (member.2.isPlain && member.2.depth ≤ actorMemberDepth)

instance : JsonForm ScenarioActor where
  write actor := .record (writeSpawnMembers actor.params ++
    (actor.turret.map fun turret => ("turret", write turret)).toList)
  read?
    | .object members => do
      let params ← (← namedMembers? spawnMembers members) |> readSpawnMembers?
      let turret ← orElse none (← unique? "turret" members)
      if members.all isHeld then pure ⟨params, turret⟩ else none
    | _ => none

instance : JsonForm Scenario where
  write scenario := .record [("name", write scenario.name), ("config", write scenario.config),
    ("reference", write scenario.reference), ("actors", write scenario.actors)]
  read? json := do
    match ← members? ["name", "config", "reference", "actors"] true json with
    | [name, config, reference, actors] =>
      pure ⟨← orElse "" name, ← orElse {} config, ← orElse {} reference, ← orElse [] actors⟩
    | _ => none

end Rotorcraft.Form
