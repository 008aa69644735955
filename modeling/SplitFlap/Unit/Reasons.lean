/-
  SplitFlap.Unit.Reasons — what a master makes of one unit.

  `UnitVerdict.h`: the reasons that apply to a unit, as flags of a word, and the reasons
  its facts can speak for.  They are written apart; every reason that applies, but one, is
  among those the same facts speak for (`unitReasonsOf_observable`).
-/
import SplitFlap.Board.DisplayTask
import SplitFlap.Lib.Flags
import SplitFlap.Unit.HealthPoll

namespace SplitFlap.Reasons

open Flags
open Bus (unitIsLost unitDrivable twibootHeldForCrashing UNIT_FLAG_MOVING)

/-! ## §1. Reasons. -/

inductive VerdictLevel where
  | working
  | note
  | fault
  deriving DecidableEq

inductive UnitReason where
  | working
  | noUnit
  | notAnswering
  | heldInBootloader
  | inBootloader
  | wrongProtocol
  | bootloaderDamaged
  | homeFailed
  | hallNever
  | beingUpdated
  | findingHome
  | jammed
  | wrongLetter
  | lowSupply
  | restartedByItself
  | firmwareOutdated
  | bootloaderOutdated
  | dragging
  | hallAnomaly
  | worn
  | notRead
  | homeFailedBefore
  deriving DecidableEq

abbrev UNIT_REASON_COUNT : Nat := 22

/-- The number the event record stores. -/
def UnitReason.number : UnitReason → Nat
  | .working => 0
  | .noUnit => 1
  | .notAnswering => 2
  | .heldInBootloader => 3
  | .inBootloader => 4
  | .wrongProtocol => 5
  | .bootloaderDamaged => 6
  | .homeFailed => 7
  | .hallNever => 8
  | .beingUpdated => 9
  | .findingHome => 10
  | .jammed => 11
  | .wrongLetter => 12
  | .lowSupply => 13
  | .restartedByItself => 14
  | .firmwareOutdated => 15
  | .bootloaderOutdated => 16
  | .dragging => 17
  | .hallAnomaly => 18
  | .worn => 19
  | .notRead => 20
  | .homeFailedBefore => 21

instance : Flagged UnitReason where
  number := UnitReason.number
  number_lt r := by cases r <;> decide
  number_injective q r h := by
    cases q <;> cases r <;> first | rfl | exact absurd h (by decide)

def unitReasonBit (r : UnitReason) : UInt32 := bit r

abbrev addReason (c : Bool) (r : UnitReason) (all : UInt32) : UInt32 := addIf c r all

abbrev addReasons (c : Bool) (rs : List UnitReason) (all : UInt32) : UInt32 := addAllIf c rs all

def unitReasonLevel : UnitReason → VerdictLevel
  | .working => .working
  | .noUnit | .notAnswering | .heldInBootloader | .inBootloader | .wrongProtocol
  | .bootloaderDamaged | .homeFailed | .hallNever => .fault
  | _ => .note

/-- The order reasons lead in. -/
def UNIT_REASON_ORDER : List UnitReason :=
  [.noUnit, .notAnswering, .heldInBootloader, .inBootloader, .wrongProtocol, .bootloaderDamaged,
    .hallNever, .homeFailed, .beingUpdated, .findingHome, .jammed, .wrongLetter, .lowSupply,
    .restartedByItself, .firmwareOutdated, .bootloaderOutdated, .dragging, .hallAnomaly, .worn,
    .notRead, .homeFailedBefore]

theorem unit_reason_order_nodup : UNIT_REASON_ORDER.Nodup := by decide

theorem mem_unit_reason_order {r : UnitReason} : r ∈ UNIT_REASON_ORDER ↔ r ≠ .working := by
  cases r <;> decide

/-! ## §2. The judgement. -/

abbrev UNIT_FLAG_LAST_HOME_FAILED : UInt8 := 0x02
abbrev UNIT_FLAG_HALL_NEVER : UInt8 := 0x04
abbrev UNIT_FLAG_HOMED : UInt8 := 0x20
abbrev EXT_DIAG_STATUS_STALL : UInt8 := 0x01
abbrev EXT_DIAG_DRAG_EXCESS_STEPS : UInt16 := 200
abbrev UNIT_VCC_MIN_FLOOR_MV : UInt16 := 4000

/-- What the unit's facts do not say about it. -/
structure UnitVerdictContext where
  nowMs : UInt32 := 0
  updating : Bool := false
  worn : Bool := false
  homeFailedSince : UInt8 := 0

def unitStatusIsFaulty (s : UnitStatus) : Bool :=
  s.flags &&& UNIT_FLAG_LAST_HOME_FAILED != 0 || s.flags &&& UNIT_FLAG_HALL_NEVER != 0

def unitBootHomeState (flags : UInt8) : UInt8 :=
  if flags &&& UNIT_FLAG_HOMED ≠ 0 then 2 else if flags &&& UNIT_FLAG_MOVING ≠ 0 then 1 else 0

def unitVccIsLow (vitalsValid : Bool) (vccMin_mV floor_mV : UInt16) : Bool :=
  vitalsValid && vccMin_mV != 0 && vccMin_mV < floor_mV

def statusReasons (u : UnitFacts) (all : UInt32) : UInt32 :=
  if u.statusValid then
    let all := addReason (u.status.flags &&& UNIT_FLAG_HALL_NEVER != 0) .hallNever all
    let all := addReason (u.status.flags &&& UNIT_FLAG_LAST_HOME_FAILED != 0) .homeFailed all
    let all := addReason (!unitStatusIsFaulty u.status && unitBootHomeState u.status.flags != 2)
      .findingHome all
    addReason u.resetSeen .restartedByItself all
  else addReason true .notRead all

def extDiagReasons (u : UnitFacts) (all : UInt32) : UInt32 :=
  if u.extDiagValid then
    let all := addReason (u.extDiag.statusBits &&& EXT_DIAG_STATUS_STALL != 0) .jammed all
    let all := addReason (u.extDiag.stepExcessMax > EXT_DIAG_DRAG_EXCESS_STEPS) .dragging all
    addReason (u.extDiag.hallEdgesLastRev > 1) .hallAnomaly all
  else all

/-- The reasons that apply to a unit that runs its sketch. -/
def runningReasons (u : UnitFacts) (ctx : UnitVerdictContext) : UInt32 :=
  let homeFailedNow := u.statusValid && unitStatusIsFaulty u.status
  let all := addReason (u.bootVerdict == BOOT_INTEGRITY_CORRUPT) .bootloaderDamaged 0
  let all := addReason (u.bootVerdict == BOOT_INTEGRITY_OUTDATED) .bootloaderOutdated all
  let all := statusReasons u all
  let all := extDiagReasons u all
  let all := addReason (u.diagValid && u.mismatch) .wrongLetter all
  let all := addReason (unitVccIsLow u.vitalsValid u.vitals.vccMin_mV UNIT_VCC_MIN_FLOOR_MV)
    .lowSupply all
  let all := addReason (u.fwStatus == 1) .firmwareOutdated all
  let all := addReason ctx.worn .worn all
  addReason (!homeFailedNow && ctx.homeFailedSince > 0) .homeFailedBefore all

def unitReasonsOf (u : UnitFacts) (ctx : UnitVerdictContext) : UInt32 :=
  if u.state = 0 then unitReasonBit .noUnit
  else if u.state = 2 then
    if twibootHeldForCrashing u.bootloader then unitReasonBit .heldInBootloader
    else unitReasonBit (if ctx.updating then .beingUpdated else .inBootloader)
  else if unitIsLost u then unitReasonBit .notAnswering
  else if unitDrivable u = false then unitReasonBit .wrongProtocol
  else runningReasons u ctx

/-- What kind of thing answers at the address. -/
def standingReasons : UInt32 :=
  unitReasonBit .noUnit ||| unitReasonBit .notAnswering ||| unitReasonBit .heldInBootloader |||
    unitReasonBit .inBootloader ||| unitReasonBit .wrongProtocol ||| unitReasonBit .beingUpdated

/-- The reasons the reads of a unit that runs can speak for. -/
def runningObservable (u : UnitFacts) : UInt32 :=
  let seen := addReasons true [.notRead, .firmwareOutdated, .worn] standingReasons
  let seen := addReasons u.statusValid [.homeFailed, .hallNever, .findingHome, .restartedByItself] seen
  let seen := addReasons (u.bootVerdict != BOOT_INTEGRITY_UNREAD)
    [.bootloaderDamaged, .bootloaderOutdated] seen
  let seen := addReasons u.extDiagValid [.jammed, .dragging, .hallAnomaly] seen
  let seen := addReasons u.diagValid [.wrongLetter] seen
  let seen := addReasons u.vitalsValid [.lowSupply] seen
  addReasons (u.statusValid && u.lifetimeValid) [.homeFailedBefore] seen

def unitReasonsObservable (u : UnitFacts) : UInt32 :=
  let every : UInt32 := flag UNIT_REASON_COUNT - 1
  if u.state ≠ 1 then every
  else if unitIsLost u ∨ unitDrivable u = false then standingReasons
  else runningObservable u

/-- The numbers that belong to a reason. -/
def unitReasonNumbers (r : UnitReason) (u : UnitFacts) (ctx : UnitVerdictContext) :
    UInt32 × UInt32 :=
  match r with
  | .working =>
      (if u.linkValid then u.link.uptimeSeconds
        else if u.statusValid then u.status.uptimeSeconds.toUInt32 else 0, 0)
  | .notAnswering => ((ctx.nowMs - u.lastSeenMs) / 1000, u.misses.toUInt32)
  | .heldInBootloader => (u.bootloader.crashCount.toUInt32, 0)
  | .wrongProtocol => (u.protocolVersion.toUInt32, 0)
  | .bootloaderDamaged | .bootloaderOutdated => (u.bootCrc32, 0)
  | .homeFailed => (if u.lifetimeValid then u.lifetime.homeFailedCount.toUInt32 else 0, 0)
  | .findingHome => ((unitBootHomeState u.status.flags).toUInt32, 0)
  | .wrongLetter => (u.physLetter.toUInt32, 0)
  | .lowSupply => (u.vitals.vccMin_mV.toUInt32, UNIT_VCC_MIN_FLOOR_MV.toUInt32)
  | .restartedByItself =>
      (u.status.lifetimeBrownoutCount.toUInt32, u.status.lifetimeWatchdogCount.toUInt32)
  | .dragging => (u.extDiag.stepExcessMax.toUInt32, EXT_DIAG_DRAG_EXCESS_STEPS.toUInt32)
  | .hallAnomaly => (u.extDiag.hallEdgesLastRev.toUInt32, 0)
  | .worn => (u.odometer, 0)
  | .homeFailedBefore =>
      (ctx.homeFailedSince.toUInt32,
        if u.lifetimeValid then u.lifetime.homeFailedCount.toUInt32 else 0)
  | _ => (0, 0)

def unitReasonLeading (all : UInt32) : UnitReason :=
  (UNIT_REASON_ORDER.find? fun r => holds all r).getD .working

structure UnitVerdict where
  level : VerdictLevel := .working
  reason : UnitReason := .working
  a : UInt32 := 0
  b : UInt32 := 0
  all : UInt32 := 0

def unitVerdict (u : UnitFacts) (ctx : UnitVerdictContext) : UnitVerdict :=
  let all := unitReasonsOf u ctx
  let reason := unitReasonLeading all
  let numbers := unitReasonNumbers reason u ctx
  { level := unitReasonLevel reason, reason, a := numbers.1, b := numbers.2, all }

/-! ## §3. What applies can be seen. -/

@[simp] theorem holds_unitReasonBit (q r : UnitReason) :
    holds (unitReasonBit q) r = decide (q = r) := holds_bit q r

/-- `(1UL << UNIT_REASON_COUNT) - 1` has every reason. -/
theorem has_every (r : UnitReason) : holds (flag UNIT_REASON_COUNT - 1) r = true := by
  cases r <;> decide

theorem has_standing (r : UnitReason) : holds standingReasons r =
    decide (r ∈ [.noUnit, .notAnswering, .heldInBootloader, .inBootloader, .wrongProtocol,
      .beingUpdated]) := by
  cases r <;> decide

/-- A status that came says how the unit homed; one that did not says that. -/
theorem statusReasons_source {u : UnitFacts} {all : UInt32} {r : UnitReason}
    (h : holds (statusReasons u all) r = true) :
    holds all r = true ∨ r = .notRead ∨
      (u.statusValid = true ∧ r ∈ [.homeFailed, .hallNever, .findingHome, .restartedByItself]) := by
  unfold statusReasons at h
  cases hstatus : u.statusValid with
  | false =>
      rw [hstatus, if_neg Bool.false_ne_true, holds_addIf, Bool.true_and, Bool.or_eq_true,
        decide_eq_true_eq] at h
      exact h.imp id fun hr => Or.inl hr.symm
  | true =>
      rw [hstatus, if_pos rfl] at h
      simp only [holds_addIf, Bool.or_eq_true, Bool.and_eq_true, decide_eq_true_eq] at h
      rcases h with (((h | ⟨-, rfl⟩) | ⟨-, rfl⟩) | ⟨-, rfl⟩) | ⟨-, rfl⟩
      · exact Or.inl h
      all_goals exact Or.inr (Or.inr ⟨rfl, by decide⟩)

theorem extDiagReasons_source {u : UnitFacts} {all : UInt32} {r : UnitReason}
    (h : holds (extDiagReasons u all) r = true) :
    holds all r = true ∨
      (u.extDiagValid = true ∧ r ∈ [.jammed, .dragging, .hallAnomaly]) := by
  unfold extDiagReasons at h
  cases hext : u.extDiagValid with
  | false =>
      rw [hext, if_neg Bool.false_ne_true] at h
      exact Or.inl h
  | true =>
      rw [hext, if_pos rfl] at h
      simp only [holds_addIf, Bool.or_eq_true, Bool.and_eq_true, decide_eq_true_eq] at h
      rcases h with ((h | ⟨-, rfl⟩) | ⟨-, rfl⟩) | ⟨-, rfl⟩
      · exact Or.inl h
      all_goals exact Or.inr ⟨rfl, by decide⟩

/-- What applies to a unit that runs comes of a read that came. -/
theorem runningReasons_observable {u : UnitFacts} {ctx : UnitVerdictContext} {r : UnitReason}
    (h : holds (runningReasons u ctx) r = true) (hr : r ≠ .homeFailedBefore) :
    holds (runningObservable u) r = true := by
  unfold runningReasons at h
  simp only [holds_addIf, Bool.or_eq_true, Bool.and_eq_true, decide_eq_true_eq] at h
  unfold runningObservable
  simp only [holds_addAllIf]
  rcases h with ((((h | ⟨hwrong, rfl⟩) | ⟨hlow, rfl⟩) | ⟨-, rfl⟩) | ⟨-, rfl⟩) | ⟨-, rfl⟩
  · rcases extDiagReasons_source h with h | ⟨hext, hmem⟩
    · rcases statusReasons_source h with h | rfl | ⟨hstatus, hmem⟩
      · simp only [holds_addIf, holds_zero, Bool.or_eq_true, Bool.and_eq_true, decide_eq_true_eq,
          Bool.false_eq_true, false_or, beq_iff_eq] at h
        rcases h with ⟨hboot, rfl⟩ | ⟨hboot, rfl⟩
        · have hread : ¬BOOT_INTEGRITY_CORRUPT = BOOT_INTEGRITY_UNREAD := by decide
          simp [hboot, hread]
        · have hread : ¬BOOT_INTEGRITY_OUTDATED = BOOT_INTEGRITY_UNREAD := by decide
          simp [hboot, hread]
      · simp
      · simp [hstatus, hmem]
    · simp [hext, hmem]
  · simp [hwrong.1]
  · have hvitals : u.vitalsValid = true := by
      unfold unitVccIsLow at hlow
      rw [Bool.and_eq_true, Bool.and_eq_true] at hlow
      exact hlow.1.1
    simp [hvitals]
  · simp
  · simp
  · exact absurd rfl hr

/-- Every reason that applies is one the same facts speak for, save that a home failed
before. -/
theorem unitReasonsOf_observable (u : UnitFacts) (ctx : UnitVerdictContext) {r : UnitReason}
    (happlies : holds (unitReasonsOf u ctx) r = true) (hr : r ≠ .homeFailedBefore) :
    holds (unitReasonsObservable u) r = true := by
  unfold unitReasonsObservable
  by_cases hstate : u.state ≠ 1
  · rw [if_pos hstate]
    exact has_every r
  rw [if_neg hstate]
  have hrunning : u.state = 1 := not_not.mp hstate
  unfold unitReasonsOf at happlies
  rw [hrunning, if_neg (by decide), if_neg (by decide)] at happlies
  by_cases hlost : unitIsLost u = true
  · rw [if_pos hlost, holds_unitReasonBit, decide_eq_true_eq] at happlies
    rw [if_pos (Or.inl hlost), has_standing, ← happlies]
    rfl
  rw [if_neg hlost] at happlies
  by_cases hdrivable : unitDrivable u = false
  · rw [if_pos hdrivable, holds_unitReasonBit, decide_eq_true_eq] at happlies
    rw [if_pos (Or.inr hdrivable), has_standing, ← happlies]
    rfl
  rw [if_neg hdrivable] at happlies
  rw [if_neg (not_or.mpr ⟨hlost, hdrivable⟩)]
  exact runningReasons_observable happlies hr

end SplitFlap.Reasons
