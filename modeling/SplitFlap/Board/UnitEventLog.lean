/-
  SplitFlap.Board.UnitEventLog — the lines a master logs about a unit's health.

  After each poll of a unit `logUnitHealthTransition` folds eight conditions into a mask
  and logs what changed since the last mask; a condition whose packet was not read keeps
  what it was.  The abstract side is one row of readings for each condition, and its edges.

  Main result: `health_lines_are_the_edges`.
-/
import Mathlib.Data.List.Induction
import SplitFlap.Lib.Bytes
import SplitFlap.Lib.Edges
import SplitFlap.Unit.Reasons

namespace SplitFlap.UnitEventLog

open SplitFlap.Edges SplitFlap.Reasons

abbrev UNIT_EVT_HOME_FAILED : UInt8 := 0x01
abbrev UNIT_EVT_HALL_NEVER : UInt8 := 0x02
abbrev UNIT_EVT_STALE : UInt8 := 0x04
abbrev UNIT_EVT_MISMATCH : UInt8 := 0x08
abbrev UNIT_EVT_LOW_VCC : UInt8 := 0x10
abbrev UNIT_EVT_JAM : UInt8 := 0x20
abbrev UNIT_EVT_DRAG : UInt8 := 0x40
abbrev UNIT_EVT_HALL_ANOMALY : UInt8 := 0x80
abbrev UNIT_EVT_RECOVERABLE : UInt8 := UNIT_EVT_HOME_FAILED ||| UNIT_EVT_STALE
abbrev UNIT_VCC_MIN_FLOOR_MV : UInt16 := 4000
abbrev EXT_DIAG_DRAG_EXCESS_STEPS : UInt16 := 200

/-! ## §1. The masks. -/

def unitVccIsLow (vitalsValid : Bool) (vccMin_mV floor_mV : UInt16) : Bool :=
  vitalsValid && vccMin_mV != 0 && decide (vccMin_mV < floor_mV)

structure UnitEventTransitions where
  onset : UInt8
  recovery : UInt8
  newState : UInt8

def orIf (condition : Bool) (bits mask : UInt8) : UInt8 := if condition then mask ||| bits else mask

def unitEventEvaluate (prior cur validMask : UInt8) (extDiagValid : Bool) (extDiag : UnitExtDiag) :
    UnitEventTransitions :=
  let validMask := orIf extDiagValid (UNIT_EVT_JAM ||| UNIT_EVT_DRAG ||| UNIT_EVT_HALL_ANOMALY)
    validMask
  let cur := orIf (extDiagValid && extDiag.statusBits &&& EXT_DIAG_STATUS_STALL != 0) UNIT_EVT_JAM
    cur
  let cur := orIf (extDiagValid && decide (extDiag.stepExcessMax > EXT_DIAG_DRAG_EXCESS_STEPS))
    UNIT_EVT_DRAG cur
  let cur := orIf (extDiagValid && decide (extDiag.hallEdgesLastRev > 1)) UNIT_EVT_HALL_ANOMALY cur
  let effective := (cur &&& validMask) ||| (prior &&& ~~~validMask)
  { onset := effective &&& ~~~prior
    recovery := prior &&& ~~~effective &&& UNIT_EVT_RECOVERABLE
    newState := effective }

/-- The conditions `logUnitHealthTransition` finds, ext-diag's apart. -/
def currentMask (u : UnitFacts) : UInt8 :=
  let cur := orIf (u.statusValid && u.status.flags &&& UNIT_FLAG_LAST_HOME_FAILED != 0)
    UNIT_EVT_HOME_FAILED 0
  let cur := orIf (u.statusValid && u.status.flags &&& UNIT_FLAG_HALL_NEVER != 0)
    UNIT_EVT_HALL_NEVER cur
  let cur := orIf (u.vitalsValid &&
      unitVccIsLow u.vitalsValid u.vitals.vccMin_mV UNIT_VCC_MIN_FLOOR_MV) UNIT_EVT_LOW_VCC cur
  let cur := orIf u.stale UNIT_EVT_STALE cur
  orIf u.mismatch UNIT_EVT_MISMATCH cur

/-- The conditions this poll can tell of. -/
def observableMask (u : UnitFacts) : UInt8 :=
  let valid := UNIT_EVT_STALE
  let valid := orIf u.diagValid UNIT_EVT_MISMATCH valid
  let valid := orIf u.statusValid (UNIT_EVT_HOME_FAILED ||| UNIT_EVT_HALL_NEVER) valid
  orIf u.vitalsValid UNIT_EVT_LOW_VCC valid

inductive Condition where
  | homeFailed
  | hallNever
  | stale
  | mismatch
  | lowVcc
  | jam
  | drag
  | hallAnomaly
  deriving DecidableEq

def Condition.mask : Condition → UInt8
  | .homeFailed => UNIT_EVT_HOME_FAILED
  | .hallNever => UNIT_EVT_HALL_NEVER
  | .stale => UNIT_EVT_STALE
  | .mismatch => UNIT_EVT_MISMATCH
  | .lowVcc => UNIT_EVT_LOW_VCC
  | .jam => UNIT_EVT_JAM
  | .drag => UNIT_EVT_DRAG
  | .hallAnomaly => UNIT_EVT_HALL_ANOMALY

def has (mask : UInt8) (c : Condition) : Bool := mask &&& c.mask != 0

/-! ## §2. The lines. -/

/-- A unit went faulty (`true`) or recovered. -/
structure Line where
  condition : Condition
  onset : Bool
  deriving DecidableEq

/-- The order of the onset lines. -/
def onsetOrder : List Condition :=
  [.stale, .homeFailed, .hallNever, .mismatch, .lowVcc, .jam, .drag, .hallAnomaly]

def recoveryOrder : List Condition := [.stale, .homeFailed]

/-- `logUnitHealthTransition`: the mask to keep and the lines. -/
def logUnitHealthTransition (prior : UInt8) (u : UnitFacts) : UInt8 × List Line :=
  let t := unitEventEvaluate prior (currentMask u) (observableMask u) u.extDiagValid u.extDiag
  (t.newState,
    (onsetOrder.filter (has t.onset)).map (⟨·, true⟩) ++
      (recoveryOrder.filter (has t.recovery)).map (⟨·, false⟩))

/-- A poll of the unit, or a probe rescan that begins its facts anew. -/
inductive Event where
  | poll (u : UnitFacts)
  | probe

/-- The mask and the lines so far. -/
structure HealthLog where
  healthEventState : UInt8 := 0
  lines : List Line := []

def HealthLog.step (h : HealthLog) : Event → HealthLog
  | .poll u =>
      { healthEventState := (logUnitHealthTransition h.healthEventState u).1
        lines := h.lines ++ (logUnitHealthTransition h.healthEventState u).2 }
  | .probe => { h with healthEventState := 0 }

/-! ## §3. The readings of a condition. -/

/-- What a poll tells of a condition; `none` when its packet was not read. -/
def reading (u : UnitFacts) : Condition → Option Bool
  | .homeFailed =>
      if u.statusValid then some (u.status.flags &&& UNIT_FLAG_LAST_HOME_FAILED != 0) else none
  | .hallNever =>
      if u.statusValid then some (u.status.flags &&& UNIT_FLAG_HALL_NEVER != 0) else none
  | .stale => some u.stale
  | .mismatch => if u.diagValid then some u.mismatch else none
  | .lowVcc =>
      if u.vitalsValid then
        some (u.vitals.vccMin_mV != 0 && decide (u.vitals.vccMin_mV < UNIT_VCC_MIN_FLOOR_MV))
      else none
  | .jam =>
      if u.extDiagValid then some (u.extDiag.statusBits &&& EXT_DIAG_STATUS_STALL != 0) else none
  | .drag =>
      if u.extDiagValid then some (decide (u.extDiag.stepExcessMax > EXT_DIAG_DRAG_EXCESS_STEPS))
      else none
  | .hallAnomaly =>
      if u.extDiagValid then some (decide (u.extDiag.hallEdgesLastRev > 1)) else none

def Event.reading (c : Condition) : Event → Option (Option Bool)
  | .poll u => (UnitEventLog.reading u c).map some
  | .probe => some none

/-- The row of a condition's readings: those that were made, and where the watch began anew. -/
def row (c : Condition) (es : List Event) : List (Option Bool) := es.filterMap (Event.reading c)

theorem row_single (c : Condition) (e : Event) : row c [e] = (e.reading c).toList := by
  unfold row
  rw [List.filterMap_cons]
  cases e.reading c <;> rfl

/-- The good news that is told too. -/
def Condition.recoverable : Condition → Bool
  | .homeFailed => true
  | .stale => true
  | _ => false

/-- Of a condition's edges the lines tell every onset, and recoveries where they are told. -/
def told (c : Condition) (changes : List Bool) : List Bool :=
  changes.filter fun onset => onset || c.recoverable

/-! ## §4. One poll. -/

def Condition.index : Condition → Nat
  | .homeFailed => 0
  | .hallNever => 1
  | .stale => 2
  | .mismatch => 3
  | .lowVcc => 4
  | .jam => 5
  | .drag => 6
  | .hallAnomaly => 7

theorem Condition.index_lt (c : Condition) : c.index < 8 := by cases c <;> decide

theorem has_eq (mask : UInt8) (c : Condition) : has mask c = mask.toBitVec.getLsbD c.index := by
  have hall : ∀ n, n < 256 → ∀ c ∈ onsetOrder,
      has (UInt8.ofNat n) c = (UInt8.ofNat n).toBitVec.getLsbD c.index := by decide +kernel
  have hmem : c ∈ onsetOrder := by cases c <;> decide
  exact forall_byte (P := fun mask => ∀ c ∈ onsetOrder, has mask c =
    mask.toBitVec.getLsbD c.index) hall mask c hmem

theorem has_or (a b : UInt8) (c : Condition) : has (a ||| b) c = (has a c || has b c) := by
  rw [has_eq, has_eq, has_eq, UInt8.toBitVec_or, BitVec.getLsbD_or]

theorem has_and (a b : UInt8) (c : Condition) : has (a &&& b) c = (has a c && has b c) := by
  rw [has_eq, has_eq, has_eq, UInt8.toBitVec_and, BitVec.getLsbD_and]

theorem has_not (a : UInt8) (c : Condition) : has (~~~a) c = !has a c := by
  rw [has_eq, has_eq, UInt8.toBitVec_not, BitVec.getLsbD_not, decide_eq_true c.index_lt,
    Bool.true_and]

theorem has_orIf (condition : Bool) (bits mask : UInt8) (c : Condition) :
    has (orIf condition bits mask) c = (has mask c || (condition && has bits c)) := by
  cases condition with
  | false => rw [Bool.false_and, Bool.or_false]; rfl
  | true =>
      rw [Bool.true_and]
      exact has_or mask bits c

/-- Every mask has its own condition and no other. -/
theorem has_mask (d c : Condition) : has d.mask c = decide (c = d) := by
  cases d <;> cases c <;> decide

theorem has_zero (c : Condition) : has 0 c = false := by cases c <;> decide

theorem has_recoverable (c : Condition) : has UNIT_EVT_RECOVERABLE c = c.recoverable := by
  cases c <;> decide

/-- What a poll finds of a condition, readable or not. -/
theorem currentMask_has (u : UnitFacts) (c : Condition) :
    has (currentMask u) c =
      ((u.statusValid && u.status.flags &&& UNIT_FLAG_LAST_HOME_FAILED != 0 &&
          decide (c = .homeFailed)) ||
        (u.statusValid && u.status.flags &&& UNIT_FLAG_HALL_NEVER != 0 &&
          decide (c = .hallNever)) ||
        (u.vitalsValid && unitVccIsLow u.vitalsValid u.vitals.vccMin_mV UNIT_VCC_MIN_FLOOR_MV &&
          decide (c = .lowVcc)) ||
        (u.stale && decide (c = .stale)) || (u.mismatch && decide (c = .mismatch))) := by
  unfold currentMask
  simp only [has_orIf, has_zero, Bool.false_or, ← has_mask]
  rfl

theorem observableMask_has (u : UnitFacts) (c : Condition) :
    has (observableMask u) c =
      (decide (c = .stale) || (u.diagValid && decide (c = .mismatch)) ||
        (u.statusValid && (decide (c = .homeFailed) || decide (c = .hallNever))) ||
        (u.vitalsValid && decide (c = .lowVcc))) := by
  unfold observableMask
  simp only [has_orIf, has_or, ← has_mask]
  rfl

/-- A condition's bit after a poll: what the poll tells, or what it was. -/
theorem newState_has (prior : UInt8) (u : UnitFacts) (c : Condition) :
    has (logUnitHealthTransition prior u).1 c = (reading u c).getD (has prior c) := by
  have hjam : has UNIT_EVT_JAM c = decide (c = .jam) := has_mask .jam c
  have hdrag : has UNIT_EVT_DRAG c = decide (c = .drag) := has_mask .drag c
  have hhall : has UNIT_EVT_HALL_ANOMALY c = decide (c = .hallAnomaly) := has_mask .hallAnomaly c
  unfold logUnitHealthTransition unitEventEvaluate
  simp only [has_or, has_and, has_not, has_orIf, currentMask_has, observableMask_has, hjam, hdrag,
    hhall]
  -- of each condition one packet decides
  cases c with
  | homeFailed => cases hv : u.statusValid <;> simp [reading, hv]
  | hallNever => cases hv : u.statusValid <;> simp [reading, hv]
  | stale => simp [reading]
  | mismatch => cases hv : u.diagValid <;> simp [reading, hv]
  | lowVcc => cases hv : u.vitalsValid <;> simp [reading, unitVccIsLow, hv]
  | jam => cases hv : u.extDiagValid <;> simp [reading, hv]
  | drag => cases hv : u.extDiagValid <;> simp [reading, hv]
  | hallAnomaly => cases hv : u.extDiagValid <;> simp [reading, hv]

/-- The lines of one condition. -/
def about (c : Condition) (lines : List Line) : List Bool :=
  (lines.filter fun l => l.condition = c).map (·.onset)

theorem about_append (c : Condition) (xs ys : List Line) :
    about c (xs ++ ys) = about c xs ++ about c ys := by
  unfold about
  rw [List.filter_append, List.map_append]

/-- A condition stands once in the order of the lines. -/
theorem about_order (c : Condition) (order : List Condition) (hnodup : order.Nodup)
    (p : Condition → Bool) (onset : Bool) :
    about c ((order.filter p).map (⟨·, onset⟩)) =
      if c ∈ order ∧ p c = true then [onset] else [] := by
  induction order with
  | nil => simp [about]
  | cons d order ih =>
      have hrest := ih (List.nodup_cons.mp hnodup).2
      have hnot := (List.nodup_cons.mp hnodup).1
      by_cases hp : p d = true
      · rw [List.filter_cons_of_pos hp, List.map_cons]
        by_cases hsame : d = c
        · subst hsame
          rw [if_neg fun h => hnot h.1] at hrest
          unfold about at hrest ⊢
          rw [List.filter_cons_of_pos (by simp), List.map_cons, hrest]
          simp [hp]
        · unfold about at hrest ⊢
          rw [List.filter_cons_of_neg (by simpa using hsame), hrest]
          simp [Ne.symm hsame]
      · rw [List.filter_cons_of_neg hp, hrest]
        by_cases hsame : d = c
        · subst hsame
          simp [hp]
        · simp [Ne.symm hsame]

/-- One poll logs of a condition its edge, where that is told. -/
theorem poll_lines (prior : UInt8) (u : UnitFacts) (c : Condition) :
    about c (logUnitHealthTransition prior u).2 =
      told c (edge (has prior c) ((reading u c).getD (has prior c))) := by
  have hstate := newState_has prior u c
  have honset : c ∈ onsetOrder := by cases c <;> decide
  have hrec : decide (c ∈ recoveryOrder) = c.recoverable := by cases c <;> decide
  have hboth : (logUnitHealthTransition prior u).2 =
      (onsetOrder.filter (has ((logUnitHealthTransition prior u).1 &&& ~~~prior))).map
          (⟨·, true⟩) ++
        (recoveryOrder.filter (has (prior &&& ~~~(logUnitHealthTransition prior u).1 &&&
          UNIT_EVT_RECOVERABLE))).map (⟨·, false⟩) := rfl
  rw [hboth, about_append, about_order c onsetOrder (by decide), about_order c recoveryOrder
    (by decide), has_and, has_and, has_and, has_not, has_not, hstate, has_recoverable, ← hrec]
  unfold told edge
  rw [← hrec]
  cases (reading u c).getD (has prior c) <;> cases has prior c <;>
    by_cases hlater : c ∈ recoveryOrder <;> simp [honset, hlater]

/-! ## §5. Every run of polls. -/

theorem has_step (h : HealthLog) (e : Event) (c : Condition) :
    has (h.step e).healthEventState c = settled false (has h.healthEventState c) (row c [e]) := by
  cases e with
  | poll u =>
      show has (logUnitHealthTransition h.healthEventState u).1 c = _
      rw [newState_has, row_single, Event.reading]
      cases reading u c <;> rfl
  | probe =>
      show has 0 c = _
      rw [has_zero]
      rfl

theorem about_step (h : HealthLog) (e : Event) (c : Condition) :
    about c (h.step e).lines =
      about c h.lines ++ told c (edges false (has h.healthEventState c) (row c [e])) := by
  cases e with
  | poll u =>
      show about c (h.lines ++ _) = _
      rw [about_append, poll_lines, row_single, Event.reading]
      cases reading u c with
      | none =>
          show _ ++ told c (edge _ (has h.healthEventState c)) = _
          unfold edge
          rw [if_pos rfl]
          rfl
      | some v =>
          show _ ++ told c (edge _ v) = _ ++ told c (edges false _ (some v :: []))
          rw [edges_some, edges, List.append_nil]
  | probe =>
      rw [row_single]
      show about c h.lines = _ ++ told c (edges false _ (none :: []))
      rw [edges, edges]
      exact (List.append_nil _).symm

theorem told_append (c : Condition) (xs ys : List Bool) :
    told c (xs ++ ys) = told c xs ++ told c ys := List.filter_append ..

theorem row_append (c : Condition) (xs ys : List Event) :
    row c (xs ++ ys) = row c xs ++ row c ys := List.filterMap_append ..

/-- Over any polls and probes of a unit, of each of the eight conditions the log has exactly the
edges of the row of its own readings: an onset for each change to true, from false at every probe,
and, where recoveries are told, one for each change back.  A poll that could not read the packet
neither logs nor forgets. -/
theorem health_lines_are_the_edges (es : List Event) (c : Condition) :
    about c (es.foldl HealthLog.step {}).lines = told c (edges false false (row c es)) := by
  have hrun : ∀ es : List Event,
      has (es.foldl HealthLog.step {}).healthEventState c = settled false false (row c es) ∧
        about c (es.foldl HealthLog.step {}).lines = told c (edges false false (row c es)) := by
    intro es
    induction es using List.reverseRecOn with
    | nil => exact ⟨has_zero c, rfl⟩
    | append_singleton es e ih =>
        rw [List.foldl_append, List.foldl_cons, List.foldl_nil, has_step, about_step, ih.1, ih.2,
          row_append, edges_append, settled_append, told_append]
        exact ⟨rfl, rfl⟩
  exact (hrun es).2

end SplitFlap.UnitEventLog
