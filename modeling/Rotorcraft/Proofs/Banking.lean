import Rotorcraft.Proofs.Aiming

/-! # Banking

A record that banks derives its turn rate and its bank from one number: how far the bearing lies ahead of its
heading, or the heading ahead of the bearing. Whatever turns both directions alike changes neither of the two
values, the leads that the two sides see make up a full turn, and a greater lead never gives less.
-/

namespace Rotorcraft

namespace Angle

/-- How far a direction lies ahead of another one, the way up from the latter. -/
def lead (ahead behind : Angle) : Int :=
  (ahead.toInt - behind.toInt) % 4096

def rotateAll (angle : Angle) (deltas : List Int16) : Angle :=
  deltas.foldl rotate angle

variable (ahead behind : Angle)

theorem lead_range : 0 ≤ ahead.lead behind ∧ ahead.lead behind < 4096 := by
  rw [lead]
  omega

/-- The difference of two representatives, folded by one turn, is a lead. -/
theorem wrapDelta_eq_lead : wrapDelta (ahead.toInt - behind.toInt) = ahead.lead behind := by
  have aheadRange := ahead.toInt_range
  have behindRange := behind.toInt_range
  rw [wrapDelta, lead]
  split <;> omega

theorem lead_eq_zero_iff : ahead.lead behind = 0 ↔ ahead = behind := by
  have aheadRange := ahead.toInt_range
  have behindRange := behind.toInt_range
  constructor
  · intro level
    apply toInt_injective
    rw [lead] at level
    omega
  · rintro rfl
    rw [lead, Int.sub_self, Int.zero_emod]

/-- There and back is a full turn. -/
theorem lead_add_lead (apart : ahead ≠ behind) : ahead.lead behind + behind.lead ahead = 4096 := by
  have differs : ahead.toInt ≠ behind.toInt := mt toInt_injective apart
  have aheadRange := ahead.toInt_range
  have behindRange := behind.toInt_range
  rw [lead, lead]
  omega

theorem toInt_rotate (angle : Angle) (delta : Int16) :
    (angle.rotate delta).toInt = (angle.toInt + delta.toInt) % 4096 := toInt_ofInt _

/-- A turn of both directions leaves the lead as it is. -/
theorem lead_rotate (delta : Int16) : (ahead.rotate delta).lead (behind.rotate delta) = ahead.lead behind := by
  rw [lead, lead, toInt_rotate, toInt_rotate, ← Int.sub_emod]
  congr 1
  omega

theorem lead_rotateAll (deltas : List Int16) :
    (ahead.rotateAll deltas).lead (behind.rotateAll deltas) = ahead.lead behind := by
  induction deltas generalizing ahead behind with
  | nil => rfl
  | cons delta rest ih => exact (ih (ahead.rotate delta) (behind.rotate delta)).trans (lead_rotate ..)

end Angle

/-- The side to which a record banks. -/
inductive BankSide where
  | left
  | right
deriving DecidableEq

namespace BankSide

def mode : BankSide → Mode
  | left => .adjustLeft
  | right => .adjustRight

def opposite : BankSide → BankSide
  | left => right
  | right => left

/-- The lead that counts: to the left that of the bearing, to the right that of the heading. -/
def lead (side : BankSide) (frame : Frame) (actor : Actor) : Int :=
  match side with
  | left => frame.reference.bearing.lead actor.orientation.yaw
  | right => actor.orientation.yaw.lead frame.reference.bearing

theorem lead_range (side : BankSide) (frame : Frame) (actor : Actor) :
    0 ≤ side.lead frame actor ∧ side.lead frame actor < 4096 := by
  cases side <;> exact Angle.lead_range _ _

end BankSide

def Frame.rotated (frame : Frame) (deltas : List Int16) : Frame :=
  { frame with
    reference := { frame.reference with bearing := frame.reference.bearing.rotateAll deltas } }

def Actor.heading (actor : Actor) (yaw : Angle) : Actor :=
  { actor with orientation := { actor.orientation with yaw := yaw } }

def Actor.rotated (actor : Actor) (deltas : List Int16) : Actor :=
  actor.heading (actor.orientation.yaw.rotateAll deltas)

theorem BankSide.lead_rotated (side : BankSide) (frame : Frame) (actor : Actor) (deltas : List Int16) :
    side.lead (frame.rotated deltas) (actor.rotated deltas) = side.lead frame actor := by
  cases side <;> exact Angle.lead_rotateAll _ _ deltas

/-- Leads of opposite sides make up a full turn, unless the record heads for the bearing. -/
theorem BankSide.lead_opposite (side : BankSide) (frame : Frame) (actor : Actor) :
    actor.orientation.yaw = frame.reference.bearing ∧ side.lead frame actor = 0 ∧
        side.opposite.lead frame actor = 0 ∨
      actor.orientation.yaw ≠ frame.reference.bearing ∧
        side.lead frame actor + side.opposite.lead frame actor = 4096 := by
  by_cases level : actor.orientation.yaw = frame.reference.bearing
  · left
    refine ⟨level, ?_⟩
    cases side with
    | left => exact ⟨(Angle.lead_eq_zero_iff ..).mpr level.symm, (Angle.lead_eq_zero_iff ..).mpr level⟩
    | right => exact ⟨(Angle.lead_eq_zero_iff ..).mpr level, (Angle.lead_eq_zero_iff ..).mpr level.symm⟩
  · right
    refine ⟨level, ?_⟩
    cases side with
    | left => exact Angle.lead_add_lead _ _ (Ne.symm level)
    | right => exact Angle.lead_add_lead _ _ level

/-- On either side, there is a heading that sees the greatest lead. -/
theorem BankSide.exists_lead_eq (side : BankSide) (frame : Frame) (actor : Actor) :
    ∃ yaw, side.lead frame (actor.heading yaw) = 4095 := by
  have range := frame.reference.bearing.toInt_range
  cases side with
  | left =>
    refine ⟨.ofInt (frame.reference.bearing.toInt + 1), ?_⟩
    change (_ - (Angle.ofInt _).toInt) % 4096 = _
    rw [Angle.toInt_ofInt]
    omega
  | right =>
    refine ⟨.ofInt (frame.reference.bearing.toInt - 1), ?_⟩
    change ((Angle.ofInt _).toInt - _) % 4096 = _
    rw [Angle.toInt_ofInt]
    omega

namespace DispatchStage

def turnRate (frame : Frame) (actor : Actor) : Int :=
  (dispatch frame actor).actor.derived.turnRate.toInt

def bankAngle (frame : Frame) (actor : Actor) : Int :=
  (dispatch frame actor).actor.derived.bank.toInt

/-- A dispatch that banks by a lead: it goes through and shows the actor to the host, and it writes the turn rate,
the bank and the flag of safe division only. -/
structure Banks (frame : Frame) (actor : Actor) (lead : Int) : Prop where
  outcome : (dispatch frame actor).outcome = .ok actor.mode
  calls : (dispatch frame actor).calls = [.finalize (dispatch frame actor).actor]
  kept : ∃ rate bank, (dispatch frame actor).actor =
    { actor with
      flags := actor.flags.insert .divisionSafe
      derived := { actor.derived with turnRate := rate, bank := bank } }
  turnRate : turnRate frame actor = lead / 8
  bank : bankAngle frame actor = (lead / 4 + lead / 16) / 2

/-- In the mode of a side, the dispatcher banks by the lead of this side. -/
theorem branch_of_side {side : BankSide} {actor : Actor} (banking : actor.mode = side.mode) (frame : Frame) :
    branch frame actor = .ok (bank actor (side.lead frame actor)) := by
  rw [branch, banking]
  cases side with
  | left =>
    have ahead : leftDelta frame actor = BankSide.left.lead frame actor := Angle.wrapDelta_eq_lead ..
    rw [← ahead]
    rfl
  | right =>
    have ahead : rightDelta frame actor = BankSide.right.lead frame actor := Angle.wrapDelta_eq_lead ..
    rw [← ahead]
    rfl

theorem banks_of_side {side : BankSide} {actor : Actor} (banking : actor.mode = side.mode) (frame : Frame) :
    Banks frame actor (side.lead frame actor) := by
  have range := side.lead_range frame actor
  have success := branch_of_side banking frame
  have asks : branchCalls frame actor = [] := by
    rw [branchCalls, banking]
    cases side <;> rfl
  have dispatched : (dispatch frame actor).actor =
      (bank actor (side.lead frame actor)).setFlag .divisionSafe := by
    rw [dispatch, success]
  constructor
  · rw [dispatch, success]
  · rw [dispatch, success, asks]
    rfl
  · rw [dispatched]
    exact ⟨_, _, rfl⟩
  · rw [turnRate, dispatched]
    exact toInt_turnRate_bank actor range.1 range.2
  · rw [bankAngle, dispatched]
    exact toInt_bank_bank actor range.1 range.2

/-- What banking to a side comes to. -/
structure BankingLaw (side : BankSide) (frame : Frame) (actor : Actor) : Prop where
  banks : Banks frame actor (side.lead frame actor)
  /-- Turns of both the bearing and the heading change nothing. -/
  turned : ∀ deltas,
    turnRate (frame.rotated deltas) (actor.rotated deltas) = turnRate frame actor ∧
      bankAngle (frame.rotated deltas) (actor.rotated deltas) = bankAngle frame actor
  /-- The other side sees the rest of a full turn. -/
  mirrored :
    actor.orientation.yaw = frame.reference.bearing ∧ side.lead frame actor = 0 ∧
        side.opposite.lead frame actor = 0 ∨
      actor.orientation.yaw ≠ frame.reference.bearing ∧
        side.lead frame actor + side.opposite.lead frame actor = 4096
  /-- No record that sees a greater lead gets less, to whichever side it banks. -/
  monotone : ∀ (otherSide : BankSide) (otherFrame : Frame) (other : Actor), other.mode = otherSide.mode →
    side.lead frame actor ≤ otherSide.lead otherFrame other →
      turnRate frame actor ≤ turnRate otherFrame other ∧ bankAngle frame actor ≤ bankAngle otherFrame other
  bounded : turnRate frame actor ≤ 511 ∧ bankAngle frame actor ≤ 639
  attained : ∃ yaw, turnRate frame (actor.heading yaw) = 511 ∧ bankAngle frame (actor.heading yaw) = 639

/-- Turn rate and bank depend on the lead alone, and they grow with it. -/
theorem banking_relative {side : BankSide} {actor : Actor} (banking : actor.mode = side.mode) (frame : Frame) :
    BankingLaw side frame actor := by
  have banks := banks_of_side banking frame
  have range := side.lead_range frame actor
  refine ⟨banks, ?_, side.lead_opposite frame actor, ?_, ?_, ?_⟩
  · intro deltas
    have sameMode : (actor.rotated deltas).mode = side.mode := banking
    have turned := banks_of_side sameMode (frame.rotated deltas)
    rw [side.lead_rotated] at turned
    rw [turned.turnRate, turned.bank, banks.turnRate, banks.bank]
    exact ⟨rfl, rfl⟩
  · intro otherSide otherFrame other otherBanking greater
    have otherBanks := banks_of_side otherBanking otherFrame
    rw [banks.turnRate, banks.bank, otherBanks.turnRate, otherBanks.bank]
    constructor <;> omega
  · rw [banks.turnRate, banks.bank]
    constructor <;> omega
  · obtain ⟨yaw, greatest⟩ := side.exists_lead_eq frame actor
    have sameMode : (actor.heading yaw).mode = side.mode := banking
    have facing := banks_of_side sameMode frame
    rw [greatest] at facing
    exact ⟨yaw, facing.turnRate, facing.bank⟩

/-- A bearing just above zero and a heading just below it: the lead to the left is short, the one to the right
is nearly a full turn, and a turn across zero changes neither. -/
theorem banking_relative_across_zero :
    let frame : Frame := { reference := { bearing := .ofInt 10 } }
    let left : Actor :=
      { id := ⟨.ofNat 1⟩, name := "left", orientation := { yaw := .ofInt 4000 }, status := ⟨0x42AB⟩ }
    let right : Actor := { left with status := ⟨0x03FF⟩ }
    (left.mode = .adjustLeft ∧ BankSide.left.lead frame left = 106) ∧
      (right.mode = .adjustRight ∧ BankSide.right.lead frame right = 3990) ∧
      (turnRate frame left = 13 ∧ bankAngle frame left = 16) ∧
      (turnRate frame right = 498 ∧ bankAngle frame right = 623) ∧
      (frame.rotated [-32768, 300]).reference.bearing.units = 310 ∧
      BankingLaw .left frame left ∧ BankingLaw .right frame right := by
  intro frame left right
  refine ⟨by decide, by decide, by decide, by decide, by decide, ?_, ?_⟩
  · exact banking_relative (by decide) frame
  · exact banking_relative (by decide) frame

end DispatchStage
end Rotorcraft
