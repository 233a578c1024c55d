import Mathlib.Data.List.DropRight
import Mathlib.Data.List.Induction
import Rotorcraft.Proofs.Spawn
import Rotorcraft.Proofs.Stages

/-! # Timer banks and their history

The slots of a bank are armed, counted down and bound to codes in any order. What a slot holds tells of its own past
only: of the value that it was set to last and of the ticks that it has received since. So it fires with the tick
that uses this value up, and arming it anew before that leaves no trace of the value that it was armed with.
-/

namespace Rotorcraft

/-- What can be done with a bank. -/
inductive BankOperation where
  | arm (name : TimerName) (ticks : Int16)
  | tick (name : TimerName)
  | tickAll
  | bind (name : TimerName) (event : EventCode)
deriving DecidableEq

namespace BankOperation

variable (name : TimerName)

def armed? : BankOperation → Option Int16
  | .arm other ticks => if other = name then some ticks else none
  | _ => none

def counts : BankOperation → Bool
  | .tick other => other == name
  | .tickAll => true
  | _ => false

def bound? : BankOperation → Option EventCode
  | .bind other event => if other = name then some event else none
  | _ => none

def concerns : BankOperation → Bool
  | .arm other _ | .tick other | .bind other _ => other == name
  | .tickAll => true

def onSlot (slot : TimerSlot) : BankOperation → TimerSlot
  | .arm other ticks => if other = name then { slot with timer := .armed ticks } else slot
  | .tick other => if other = name then { slot with timer := slot.timer.tick.1 } else slot
  | .tickAll => { slot with timer := slot.timer.tick.1 }
  | .bind other event => if other = name then { slot with event := event } else slot

variable {name}

/-- An operation arms a countdown, or counts it down, or leaves it alone. -/
theorem timer_onSlot (operation : BankOperation) (slot : TimerSlot) : (operation.onSlot name slot).timer =
    match operation.armed? name with
    | some ticks => .armed ticks
    | none => if operation.counts name then slot.timer.tick.1 else slot.timer := by
  cases operation with
  | arm other ticks =>
    simp only [onSlot, armed?]
    split <;> rfl
  | tick other => by_cases same : other = name <;> simp [onSlot, armed?, counts, same]
  | tickAll => rfl
  | bind other event =>
    simp only [onSlot]
    split <;> rfl

/-- An operation binds a slot to a code, or leaves it bound as it was. -/
theorem event_onSlot (operation : BankOperation) (slot : TimerSlot) :
    (operation.onSlot name slot).event = (operation.bound? name).getD slot.event := by
  cases operation with
  | bind other event =>
    simp only [onSlot, bound?]
    split <;> rfl
  | tickAll => rfl
  | _ =>
    simp only [onSlot]
    split <;> rfl

/-- A slot is not counted down while it is armed. -/
theorem counts_of_armed {operation : BankOperation} {ticks : Int16} (arms : operation.armed? name = some ticks) :
    operation.counts name = false := by
  cases operation with
  | arm other given => rfl
  | _ => cases arms

/-- An operation on other slots leaves a slot alone and does not count it down. -/
theorem of_not_concerns {operation : BankOperation} (elsewhere : operation.concerns name = false)
    (slot : TimerSlot) : operation.onSlot name slot = slot ∧ operation.counts name = false := by
  cases operation with
  | arm other ticks => exact ⟨if_neg (beq_eq_false_iff_ne.mp elsewhere), rfl⟩
  | tick other => exact ⟨if_neg (beq_eq_false_iff_ne.mp elsewhere), elsewhere⟩
  | tickAll => cases elsewhere
  | bind other event => exact ⟨if_neg (beq_eq_false_iff_ne.mp elsewhere), rfl⟩

end BankOperation

namespace TimerBank

def perform (bank : TimerBank) : BankOperation → TimerBank
  | .arm name ticks => bank.arm name ticks
  | .tick name => (bank.tick name).1
  | .tickAll => bank.tickAll.1
  | .bind name event => bank.bind name event

def performAll (bank : TimerBank) (operations : List BankOperation) : TimerBank :=
  operations.foldl perform bank

def reports (bank : TimerBank) (name : TimerName) : BankOperation → Bool
  | .tick other => other == name && (bank.tick other).2
  | .tickAll => bank.tickAll.2.any fun fired => fired.1 == name
  | _ => false

def firings (name : TimerName) : TimerBank → List BankOperation → Nat
  | _, [] => 0
  | bank, operation :: rest =>
    (if bank.reports name operation then 1 else 0) + firings name (bank.perform operation) rest

/-- Counts slots down one after the other, and lists those that fire with the codes to which they are bound. -/
def tickInTurn : List TimerName → TimerBank → TimerBank × List (TimerName × EventCode)
  | [], bank => (bank, [])
  | name :: rest, bank =>
    let (ticked, fired) := bank.tick name
    let (after, later) := tickInTurn rest ticked
    (after, if fired then (name, (ticked.slot name).event) :: later else later)

section Perform

variable (bank : TimerBank) (operation : BankOperation) (name : TimerName)

/-- An operation makes of a slot what it makes of this slot alone. -/
theorem slot_perform : (bank.perform operation).slot name = operation.onSlot name (bank.slot name) := by
  have written (other : TimerName) (write : TimerSlot → TimerSlot) :
      (bank.setSlot other (write (bank.slot other))).slot name =
        if other = name then write (bank.slot name) else bank.slot name := by
    rw [slot_setSlot]
    by_cases same : other = name
    · rw [if_pos same, if_pos same.symm, same]
    · rw [if_neg same, if_neg (Ne.symm same)]
  cases operation with
  | arm other ticks => exact written other fun slot => { slot with timer := .armed ticks }
  | tick other => exact written other fun slot => { slot with timer := slot.timer.tick.1 }
  | tickAll => exact slot_advance bank name
  | bind other event => exact written other fun slot => { slot with event := event }

/-- A slot is reported by the operations that count it down, if it fires. -/
theorem reports_eq : bank.reports name operation =
    (operation.counts name && (bank.slot name).timer.tick.2) := by
  cases operation with
  | tick other =>
    by_cases same : other = name
    · subst same
      rfl
    · have differs : (other == name) = false := beq_eq_false_iff_ne.mpr same
      rw [reports, BankOperation.counts, differs, Bool.false_and, Bool.false_and]
  | tickAll =>
    rw [Bool.eq_iff_iff, reports, List.any_eq_true, BankOperation.counts, Bool.true_and]
    constructor
    · rintro ⟨fired, listed, same⟩
      obtain ⟨other, _, fires⟩ := List.mem_filterMap.mp listed
      split at fires
      · next ticked =>
        cases fires
        obtain rfl := beq_iff_eq.mp same
        exact ticked
      · cases fires
    · intro ticked
      refine ⟨(name, (bank.slot name).event), ?_, beq_self_eq_true _⟩
      exact List.mem_filterMap.mpr ⟨name, name.mem_all, if_pos ticked⟩
  | _ => rfl

variable {bank operation name}

theorem reports_of_uncounted (uncounted : operation.counts name = false) : bank.reports name operation = false := by
  rw [reports_eq, uncounted, Bool.false_and]

end Perform

section History

variable (bank : TimerBank) (operations : List BankOperation) (name : TimerName)

/-- The value that a slot was set to last: what it was armed with last, none if negative, or else what it held
before. -/
def lastValue : Int :=
  match (operations.filterMap (BankOperation.armed? name)).getLast? with
  | some ticks => max 0 ticks.toInt
  | none => (bank.remaining name).toInt

def lastCode : EventCode :=
  (operations.filterMap (BankOperation.bound? name)).getLast?.getD (bank.slot name).event

/-- How often a slot was counted down since it was armed last. -/
def ticksSince : Nat :=
  (operations.rtakeWhile fun operation => (operation.armed? name).isNone).countP (BankOperation.counts name)

/-- How often a slot was given a positive value, the one that it held before included. -/
def positives : Nat :=
  (operations.filterMap (BankOperation.armed? name)).countP (0 < ·.toInt) +
    if 0 < (bank.remaining name).toInt then 1 else 0

variable {bank operations name} {operation : BankOperation}

theorem lastValue_concat : bank.lastValue (operations ++ [operation]) name =
    match operation.armed? name with
    | some ticks => max 0 ticks.toInt
    | none => bank.lastValue operations name := by
  cases arms : operation.armed? name <;> simp [lastValue, arms]

theorem lastCode_concat : bank.lastCode (operations ++ [operation]) name =
    (operation.bound? name).getD (bank.lastCode operations name) := by
  cases binds : operation.bound? name <;> simp [lastCode, binds]

theorem ticksSince_concat : ticksSince (operations ++ [operation]) name =
    if (operation.armed? name).isSome then 0
    else ticksSince operations name + if operation.counts name then 1 else 0 := by
  cases arms : operation.armed? name with
  | some ticks => simp [ticksSince, arms]
  | none =>
    cases counted : operation.counts name <;> simp [ticksSince, arms, counted]

theorem performAll_append (bank : TimerBank) (first second : List BankOperation) :
    bank.performAll (first ++ second) = (bank.performAll first).performAll second :=
  List.foldl_append

theorem performAll_concat :
    bank.performAll (operations ++ [operation]) = (bank.performAll operations).perform operation :=
  performAll_append bank operations [operation]

theorem toInt_remaining_perform : ((bank.perform operation).remaining name).toInt =
    match operation.armed? name with
    | some ticks => max 0 ticks.toInt
    | none =>
      if operation.counts name then max 0 ((bank.remaining name).toInt - 1)
      else (bank.remaining name).toInt := by
  rw [remaining, slot_perform, BankOperation.timer_onSlot]
  cases operation.armed? name with
  | some ticks => exact Countdown.toInt_armed ticks
  | none =>
    cases operation.counts name with
    | true => exact Countdown.toInt_tick _
    | false => rfl

/-- A slot holds what is left of its last value; a negative one stays until the first tick. -/
theorem toInt_remaining_performAll (bank : TimerBank) (operations : List BankOperation) (name : TimerName) :
    ((bank.performAll operations).remaining name).toInt =
      if bank.lastValue operations name < 0 ∧ ticksSince operations name = 0 then
        bank.lastValue operations name
      else max 0 (bank.lastValue operations name - ticksSince operations name) := by
  induction operations using List.reverseRecOn with
  | nil =>
    have value : bank.lastValue [] name = (bank.remaining name).toInt := rfl
    have untouched : bank.performAll [] = bank := rfl
    have unticked : ticksSince [] name = 0 := rfl
    rw [value, untouched, unticked]
    split <;> omega
  | append_singleton earlier operation ih =>
    rw [performAll_concat, toInt_remaining_perform, lastValue_concat, ticksSince_concat, ih]
    cases operation.armed? name with
    | some ticks =>
      simp only [Option.isSome_some, if_true]
      split <;> omega
    | none =>
      cases operation.counts name with
      | true =>
        simp only [Option.isSome_none, Bool.false_eq_true, if_false, if_true]
        split <;> split <;> omega
      | false => rfl

theorem event_performAll (bank : TimerBank) (operations : List BankOperation) (name : TimerName) :
    ((bank.performAll operations).slot name).event = bank.lastCode operations name := by
  induction operations using List.reverseRecOn with
  | nil => rfl
  | append_singleton earlier operation ih =>
    rw [performAll_concat, slot_perform, BankOperation.event_onSlot, lastCode_concat, ih]

/-- An operation reports a slot with its last tick only. -/
theorem reports_iff : bank.reports name operation = true ↔
    operation.counts name = true ∧ (bank.remaining name).toInt = 1 := by
  rw [reports_eq, Bool.and_eq_true, Countdown.tick_fires_iff]
  rfl

/-- This is the tick that uses up the last value of the slot. -/
theorem reports_performAll_iff (bank : TimerBank) (operations : List BankOperation) (name : TimerName)
    (operation : BankOperation) : (bank.performAll operations).reports name operation = true ↔
      operation.counts name = true ∧ bank.lastValue operations name = ticksSince operations name + 1 := by
  rw [reports_iff, toInt_remaining_performAll]
  refine and_congr_right fun _ => ?_
  split <;> omega

theorem firings_append (first second : List BankOperation) : firings name bank (first ++ second) =
    firings name bank first + firings name (bank.performAll first) second := by
  induction first generalizing bank with
  | nil => exact (Nat.zero_add _).symm
  | cons operation rest ih =>
    rw [List.cons_append, firings, ih, firings, Nat.add_assoc]
    rfl

theorem firings_concat : firings name bank (operations ++ [operation]) =
    firings name bank operations + if (bank.performAll operations).reports name operation then 1 else 0 :=
  firings_append operations [operation]

theorem positives_concat : bank.positives (operations ++ [operation]) name =
    bank.positives operations name +
      match operation.armed? name with
      | some ticks => if 0 < ticks.toInt then 1 else 0
      | none => 0 := by
  cases arms : operation.armed? name with
  | some ticks =>
    simp only [positives, List.filterMap_append, List.filterMap_cons, arms, List.filterMap_nil,
      List.countP_append, List.countP_singleton, decide_eq_true_eq]
    omega
  | none =>
    simp only [positives, List.filterMap_append, List.filterMap_cons, arms, List.filterMap_nil, List.append_nil,
      Nat.add_zero]

/-- Each firing uses up one positive value, and so will the one that is left: without it the bound would not go on
to hold. -/
theorem firings_add_running_le (bank : TimerBank) (operations : List BankOperation) (name : TimerName) :
    firings name bank operations +
        (if 0 < ((bank.performAll operations).remaining name).toInt then 1 else 0) ≤
      bank.positives operations name := by
  induction operations using List.reverseRecOn with
  | nil => exact Nat.le_of_eq rfl
  | append_singleton earlier operation ih =>
    have reported : (bank.performAll earlier).reports name operation = true ↔ _ := reports_iff
    rw [performAll_concat, toInt_remaining_perform, firings_concat, positives_concat]
    cases arms : operation.armed? name with
    | some ticks =>
      have silent : (bank.performAll earlier).reports name operation = false :=
        reports_of_uncounted (BankOperation.counts_of_armed arms)
      simp only [silent, Bool.false_eq_true, if_false]
      split <;> split <;> omega
    | none =>
      simp only [reported]
      cases operation.counts name with
      | true =>
        simp only [true_and, if_true]
        split_ifs at ih ⊢ <;> omega
      | false => simpa using ih

/-- A value that is not used up does not fire. -/
theorem firings_eq_zero (unarmed : ∀ operation ∈ operations, operation.armed? name = none)
    (early : (operations.countP (BankOperation.counts name) : Int) < (bank.remaining name).toInt) :
    firings name bank operations = 0 := by
  induction operations generalizing bank with
  | nil => rfl
  | cons operation rest ih =>
    obtain ⟨unarmed, others⟩ := List.forall_mem_cons.mp unarmed
    rw [List.countP_cons] at early
    have silent : ¬ bank.reports name operation = true := by
      rw [reports_iff]
      rintro ⟨counted, last⟩
      rw [if_pos counted] at early
      omega
    rw [firings, if_neg silent, Nat.zero_add]
    refine ih others ?_
    have left : ((bank.perform operation).remaining name).toInt =
        if operation.counts name then max 0 ((bank.remaining name).toInt - 1)
        else (bank.remaining name).toInt := by
      rw [toInt_remaining_perform, unarmed]
    rw [left]
    split_ifs at early ⊢ <;> omega

/-- Once a slot is armed anew, what it held before makes no difference to how it is reported. -/
theorem reports_rearmed (first second : TimerBank) (again : Int16) (later : List BankOperation)
    (operation : BankOperation) :
    (first.performAll (.arm name again :: later)).reports name operation =
      (second.performAll (.arm name again :: later)).reports name operation := by
  have same : (first.arm name again).remaining name = (second.arm name again).remaining name := by
    rw [remaining, remaining, arm, arm, slot_setSlot, slot_setSlot, if_pos rfl, if_pos rfl]
  have value : (first.arm name again).lastValue later name = (second.arm name again).lastValue later name := by
    rw [lastValue, lastValue, same]
  rw [Bool.eq_iff_iff]
  change ((first.arm name again).performAll later).reports name operation = true ↔
    ((second.arm name again).performAll later).reports name operation = true
  rw [reports_performAll_iff, reports_performAll_iff, value]

/-- An operation on other slots neither changes a slot nor reports it. -/
theorem perform_elsewhere (bank : TimerBank) (elsewhere : operation.concerns name = false) :
    (bank.perform operation).slot name = bank.slot name ∧ bank.reports name operation = false := by
  obtain ⟨same, uncounted⟩ := BankOperation.of_not_concerns elsewhere (bank.slot name)
  exact ⟨(slot_perform ..).trans same, reports_of_uncounted uncounted⟩

/-- The operations on a slot alone, on any bank in which this slot is the same, leave it the same and make it fire
as often. -/
theorem performAll_filter {other : TimerBank} (same : other.slot name = bank.slot name) :
    (other.performAll (operations.filter (BankOperation.concerns name))).slot name =
        (bank.performAll operations).slot name ∧
      firings name other (operations.filter (BankOperation.concerns name)) = firings name bank operations := by
  induction operations generalizing bank other with
  | nil => exact ⟨same, rfl⟩
  | cons operation rest ih =>
    cases concerned : operation.concerns name with
    | true =>
      have next : (other.perform operation).slot name = (bank.perform operation).slot name := by
        rw [slot_perform, slot_perform, same]
      have reported : other.reports name operation = bank.reports name operation := by
        rw [reports_eq, reports_eq, same]
      obtain ⟨left, fired⟩ := ih next
      rw [List.filter_cons_of_pos concerned, firings, firings, reported, fired]
      exact ⟨left, rfl⟩
    | false =>
      obtain ⟨kept, silent⟩ := perform_elsewhere bank concerned
      obtain ⟨left, fired⟩ := ih (same.trans kept.symm)
      rw [List.filter_cons_of_neg (by simp [concerned]), firings, silent, fired]
      exact ⟨left, (Nat.zero_add _).symm⟩

end History

/-- The first slot keeps its code, and fires if its countdown does. -/
theorem tickInTurn_cons (name : TimerName) (rest : List TimerName) (bank : TimerBank) :
    tickInTurn (name :: rest) bank =
      let later := tickInTurn rest (bank.tick name).1
      (later.1, if (bank.slot name).timer.tick.2 then (name, (bank.slot name).event) :: later.2 else later.2) := by
  have code : ((bank.tick name).1.slot name).event = (bank.slot name).event := by
    rw [tick, slot_setSlot, if_pos rfl]
  rw [← code]
  rfl

/-- Counting one slot down leaves the others as they are, so that each fires as it would alone. -/
theorem tickInTurn_eq {names : List TimerName} (distinct : names.Nodup) (bank : TimerBank) :
    tickInTurn names bank =
      (names.foldl (fun bank name => (bank.tick name).1) bank,
        names.filterMap fun name =>
          if (bank.slot name).timer.tick.2 then some (name, (bank.slot name).event) else none) := by
  induction names generalizing bank with
  | nil => rfl
  | cons name rest ih =>
    obtain ⟨fresh, distinct⟩ := List.nodup_cons.mp distinct
    have later : (rest.filterMap fun other =>
          if ((bank.tick name).1.slot other).timer.tick.2 then
            some (other, ((bank.tick name).1.slot other).event)
          else none) =
        rest.filterMap fun other =>
          if (bank.slot other).timer.tick.2 then some (other, (bank.slot other).event) else none := by
      apply List.filterMap_congr
      intro other member
      rw [tick, slot_setSlot, if_neg (ne_of_mem_of_not_mem member fresh)]
    rw [tickInTurn_cons, ih distinct, later, List.foldl_cons, List.filterMap_cons]
    cases (bank.slot name).timer.tick.2 <;> rfl

/-- A tick of the bank is a tick of each of its slots. -/
theorem tickInTurn_all (bank : TimerBank) : tickInTurn TimerName.all bank = bank.tickAll := by
  have advanced : TimerName.all.foldl (fun bank name => (bank.tick name).1) bank = bank.advance := by
    simp only [TimerName.all, List.foldl_cons, List.foldl_nil, tick, setSlot, slot, advance]
  rw [tickInTurn_eq (by decide), advanced, tickAll, firing]

/-- What operations on a bank leave in a slot, and when they report it. -/
structure SlotHistory (bank : TimerBank) (operations : List BankOperation) (name : TimerName) : Prop where
  /-- Of the last value, the slot holds what the ticks since have left; a negative one stays until the first tick. -/
  remaining : ((bank.performAll operations).remaining name).toInt =
    if bank.lastValue operations name < 0 ∧ ticksSince operations name = 0 then bank.lastValue operations name
    else max 0 (bank.lastValue operations name - ticksSince operations name)
  /-- It has the code to which it was bound last. -/
  code : ((bank.performAll operations).slot name).event = bank.lastCode operations name
  /-- The next operation reports it if and only if that is the tick that uses up the last value. -/
  reports : ∀ next, (bank.performAll operations).reports name next = true ↔
    next.counts name = true ∧ bank.lastValue operations name = ticksSince operations name + 1
  /-- It has not fired more often than it was given a positive value. -/
  firings : firings name bank operations ≤ bank.positives operations name
  /-- Armed anew before the value that it holds is used up, it does not fire for this value: not until then, and
  after that as if it had been armed at once. -/
  rearmed : ∀ between again, (∀ operation ∈ between, operation.armed? name = none) →
    (between.countP (BankOperation.counts name) : Int) < ((bank.performAll operations).remaining name).toInt →
    TimerBank.firings name (bank.performAll operations) between = 0 ∧ ∀ later next,
      (bank.performAll (operations ++ between ++ .arm name again :: later)).reports name next =
        (bank.performAll (operations ++ .arm name again :: later)).reports name next
  /-- An operation on another slot neither changes it nor reports it. -/
  apart : ∀ next : BankOperation, next.concerns name = false →
    ((bank.performAll operations).perform next).slot name = (bank.performAll operations).slot name ∧
      (bank.performAll operations).reports name next = false
  /-- Neither the other slots nor what is done with them matters to it. -/
  alone : ∀ other : TimerBank, other.slot name = bank.slot name →
    (other.performAll (operations.filter (BankOperation.concerns name))).slot name =
        (bank.performAll operations).slot name ∧
      TimerBank.firings name other (operations.filter (BankOperation.concerns name)) =
        TimerBank.firings name bank operations

/-- After any operations on any bank, its slots tell their own history each. A tick of the bank is then a tick of
each slot in turn, and it reports, in bank order, those whose last value it uses up, with the codes to which they are
bound. -/
theorem bank_tells_history (bank : TimerBank) (operations : List BankOperation) :
    (∀ name, SlotHistory bank operations name) ∧
      (bank.performAll operations).tickAll = tickInTurn TimerName.all (bank.performAll operations) ∧
      (bank.performAll operations).tickAll.2 =
        (TimerName.all.filter fun name =>
            bank.lastValue operations name = ticksSince operations name + 1).map
          fun name => (name, bank.lastCode operations name) := by
  refine ⟨fun name => ?_, (tickInTurn_all _).symm, ?_⟩
  · exact {
      remaining := toInt_remaining_performAll bank operations name
      code := event_performAll bank operations name
      reports := reports_performAll_iff bank operations name
      firings := Nat.le_trans (Nat.le_add_right _ _) (firings_add_running_le bank operations name)
      rearmed := fun between again unarmed early => ⟨firings_eq_zero unarmed early, fun later next => by
        rw [List.append_assoc, performAll_append, performAll_append bank, performAll_append]
        exact reports_rearmed _ _ again later next⟩
      apart := fun next => perform_elsewhere _
      alone := fun other => performAll_filter }
  · have left (name : TimerName) : (((bank.performAll operations).remaining name).toInt = 1) =
        (bank.lastValue operations name = ticksSince operations name + 1) := by
      rw [toInt_remaining_performAll, eq_iff_iff]
      split <;> omega
    rw [tickAll, firing_eq]
    simp only [left, event_performAll]

/-- A negative value stays until the first tick and does not fire. Of the values that the slot is armed with, the
first is cancelled and the second fires once, with the code of that moment. -/
example :
    let bank : TimerBank := { fire := ⟨⟨-3⟩, ⟨1⟩⟩ }
    let operations : List BankOperation :=
      [.tickAll, .arm .fire 2, .tick .fire, .arm .fire 1, .tick .sweep, .bind .fire ⟨7⟩]
    (bank.perform (.arm .hover 5)).remaining .fire = -3 ∧
      (bank.performAll operations).tickAll.2 = [(.fire, ⟨7⟩)] ∧
      firings .fire bank (operations ++ [.tickAll, .tick .fire]) = 1 := by
  decide

end TimerBank
end Rotorcraft
