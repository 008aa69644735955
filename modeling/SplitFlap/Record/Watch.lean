/-
  SplitFlap.Record.Watch — which changes of a verdict are worth an entry.

  `WallWatchPolicy.h` follows the reasons of a board and of its units from look to look.
  A look judges; what its facts cannot speak for stays as it was known.  The entries of a
  fault alternate, and an end is recorded only of what a look has seen to be gone.
-/
import SplitFlap.Record.Events
import SplitFlap.Wall.BoardReasons

namespace SplitFlap.Watch

open Flags Reasons
open Record (EventKind)
open Bus (UNITS_AMOUNT SFP_I2C_ADDRESS_BASE unitIsLost)

/-! ## §1. Wear. -/

abbrev WEAR_FLAG_RATIO : Nat := 2
abbrev WEAR_FLAG_FLOOR_REVS : Nat := 10000

/-- `assessWear` sorts the odometers that were read and takes the lower middle one. -/
def wearMedian (odometers : List UInt32) : UInt32 :=
  (odometers.mergeSort (· ≤ ·))[(odometers.length - 1) / 2]?.getD 0

def wearThreshold (median : UInt32) : Nat :=
  max (median.toNat * WEAR_FLAG_RATIO) (median.toNat + WEAR_FLAG_FLOOR_REVS)

/-- `assessWear`: has a drum of the row's first `n` turned far more than the others? -/
def wearFlagged (units : Fin UNITS_AMOUNT → UnitFacts) (n : Int) (i : Fin UNITS_AMOUNT) : Bool :=
  let row := (List.finRange UNITS_AMOUNT).filter fun i : Fin UNITS_AMOUNT => ((i : Nat) : Int) < n
  let valid := (row.filter fun i => (units i).odometerValid).map fun i => (units i).odometer
  (units i).odometerValid && wearThreshold (wearMedian valid) < (units i).odometer.toNat &&
    ((i : Nat) : Int) < n

/-! ## §2. Watches of one unit. -/

structure UnitRebootWatch where
  lastUptime : UInt16 := 0
  lastBrownout : UInt8 := 0
  lastWatchdog : UInt8 := 0
  primed : Bool := false

def unitRebootDetect (w : UnitRebootWatch) (uptime : UInt16) (brownout watchdog : UInt8) :
    UnitRebootWatch × Bool :=
  let seen : UnitRebootWatch :=
    { lastUptime := uptime, lastBrownout := brownout, lastWatchdog := watchdog, primed := true }
  if w.primed = false then (seen, false)
  else
    (seen, uptime < w.lastUptime || brownout != w.lastBrownout || watchdog != w.lastWatchdog)

structure HomeFailWatch where
  known : Bool := false
  last : UInt8 := 0
  since : UInt8 := 0

def homeFailObserve (w : HomeFailWatch) (count : UInt8) : HomeFailWatch × UInt8 :=
  if w.known = false ∨ count < w.last then ({ known := true, last := count }, 0)
  else
    let rise := count - w.last
    ({ w with
      last := count
      since := if w.since.toNat + rise.toNat > 255 then 255 else w.since + rise }, rise)

/-! ## §3. The watch. -/

def unitFaultReasons : UInt32 :=
  UNIT_REASON_ORDER.foldl
    (fun mask r => if unitReasonLevel r = .fault then mask ||| unitReasonBit r else mask) 0

def unitRecordedReasons : UInt32 :=
  let never := unitReasonBit .working ||| unitReasonBit .beingUpdated |||
    unitReasonBit .findingHome ||| unitReasonBit .notRead ||| unitReasonBit .firmwareOutdated |||
    unitReasonBit .bootloaderOutdated ||| unitReasonBit .homeFailedBefore
  (flag UNIT_REASON_COUNT - 1) &&& ~~~never

def boardRecordedReasons : UInt32 :=
  boardReasonBit .lost ||| boardReasonBit .neverSeen ||| boardReasonBit .rescue |||
    boardReasonBit .busDead ||| boardReasonBit .updateBlocked ||| boardReasonBit .unitsMissing |||
    boardReasonBit .updating ||| boardReasonBit .updatingUnits

structure ReasonEdges where
  on : UInt32 := 0
  off : UInt32 := 0
  state : UInt32 := 0

def watchReasonEdges (prior now observable recordOn recordOff : UInt32) : ReasonEdges :=
  let state := (now &&& observable) ||| (prior &&& ~~~observable)
  { on := state &&& ~~~prior &&& recordOn, off := prior &&& ~~~state &&& recordOff, state }

/-- What is remembered of one unit: one place of each of the board's three arrays. -/
structure WatchedUnit where
  unitReasons : UInt32 := 0
  reboot : UnitRebootWatch := {}
  homeFail : HomeFailWatch := {}

structure WatchBoard where
  boardReasons : UInt32 := 0
  unitsSeen : Bool := false
  units : Fin UNITS_AMOUNT → WatchedUnit := fun _ => {}

/-- An entry for the record. -/
structure Event where
  kind : EventKind
  detail : Nat
  unit : Nat
  a : UInt32
  b : UInt32

/-- The count of failed homes, where this look read it. -/
def homeFailLook (w : HomeFailWatch) (u : UnitFacts) : HomeFailWatch × UInt8 :=
  if u.state = 1 ∧ u.lifetimeValid = true ∧ unitIsLost u = false then
    homeFailObserve w u.lifetime.homeFailedCount
  else (w, 0)

def rebootLook (w : UnitRebootWatch) (u : UnitFacts) : UnitRebootWatch × Bool :=
  if u.state = 1 ∧ u.statusValid = true ∧ unitIsLost u = false then
    unitRebootDetect w u.status.uptimeSeconds u.status.lifetimeBrownoutCount
      u.status.lifetimeWatchdogCount
  else (w, false)

/-- What a look knows of a unit besides its facts. -/
def lookContext (w : WatchedUnit) (u : UnitFacts) (nowMs : UInt32) (hold worn : Bool) :
    UnitVerdictContext where
  nowMs
  updating := hold
  worn
  homeFailedSince := (homeFailLook w.homeFail u).1.since

def restartEvents (u : UnitFacts) (address : Nat) : List Event :=
  [{ kind := .unitRestarted, detail := u.status.mcusrAtBoot.toNat, unit := address
     a := u.status.lifetimeBrownoutCount.toUInt32, b := u.status.lifetimeWatchdogCount.toUInt32 }]

def homeFailEvents (w : HomeFailWatch) (u : UnitFacts) (address : Nat) : List Event :=
  [{ kind := .unitReasonOn, detail := UnitReason.homeFailedBefore.number, unit := address
     a := w.since.toUInt32, b := u.lifetime.homeFailedCount.toUInt32 }]

/-- The entries of one reason, of a unit or a board. -/
def reasonEvents (onKind offKind : EventKind) (detail unit : Nat) (numbers : UInt32 × UInt32)
    (on off : Bool) : List Event :=
  (if on then [{ kind := onKind, detail, unit, a := numbers.1, b := numbers.2 }] else []) ++
    if off then [{ kind := offKind, detail, unit, a := 0, b := 0 }] else []

def unitReasonEvents (e : ReasonEdges) (u : UnitFacts) (ctx : UnitVerdictContext)
    (address : Nat) : List Event :=
  UNIT_REASON_ORDER.flatMap fun r =>
    reasonEvents .unitReasonOn .unitReasonOff r.number address (unitReasonNumbers r u ctx)
      (holds e.on r) (holds e.off r)

/-- The changes of a unit's reasons at a look. -/
def unitEdges (w : WatchedUnit) (u : UnitFacts) (ctx : UnitVerdictContext) (unitsSeen : Bool) :
    ReasonEdges :=
  watchReasonEdges w.unitReasons (unitVerdict u ctx).all (unitReasonsObservable u)
    (if unitsSeen then unitRecordedReasons else unitRecordedReasons &&& unitFaultReasons)
    unitFaultReasons

/-- The loop of `watchUnits`, for one unit. -/
def watchUnit (w : WatchedUnit) (u : UnitFacts) (address : Nat) (nowMs : UInt32)
    (hold worn unitsSeen : Bool) : WatchedUnit × List Event :=
  let homeFail := homeFailLook w.homeFail u
  let ctx := lookContext w u nowMs hold worn
  let reboot := rebootLook w.reboot u
  if hold then
    -- nothing is recorded, and no reason that is remembered changes
    ({ w with
      homeFail := homeFail.1
      reboot := if u.state ≠ 1 then {} else reboot.1 }, [])
  else
    let e := unitEdges w u ctx unitsSeen
    ({ unitReasons := e.state, reboot := reboot.1, homeFail := homeFail.1 },
      (if reboot.2 && unitsSeen then restartEvents u address else []) ++
        (if homeFail.2 > 0 then homeFailEvents homeFail.1 u address else []) ++
        unitReasonEvents e u ctx address)

def unitAddress (i : Fin UNITS_AMOUNT) : Nat := SFP_I2C_ADDRESS_BASE + i

/-- One unit of a row at a look: a unit past the row's width is not looked at. -/
def watchPlace (w : WatchBoard) (units : Fin UNITS_AMOUNT → UnitFacts) (width : Int)
    (nowMs : UInt32) (hold : Bool) (i : Fin UNITS_AMOUNT) : WatchedUnit × List Event :=
  if ((i : Nat) : Int) < width then
    watchUnit (w.units i) (units i) (unitAddress i) nowMs hold (wearFlagged units width i)
      w.unitsSeen
  else (w.units i, [])

def watchUnits (w : WatchBoard) (units : Fin UNITS_AMOUNT → UnitFacts) (width : Int)
    (nowMs : UInt32) (hold : Bool) : WatchBoard × List Event :=
  ({ w with
    units := fun i => (watchPlace w units width nowMs hold i).1
    unitsSeen := w.unitsSeen || !hold },
    (List.finRange UNITS_AMOUNT).flatMap fun i => (watchPlace w units width nowMs hold i).2)

def boardEdges (w : WatchBoard) (f : BoardFacts) : ReasonEdges :=
  watchReasonEdges w.boardReasons (boardVerdict f).all (boardReasonsObservable f)
    boardRecordedReasons boardRecordedReasons

def watchBoard (w : WatchBoard) (f : BoardFacts) : WatchBoard × List Event :=
  let e := boardEdges w f
  ({ w with boardReasons := e.state },
    BOARD_REASON_ORDER.flatMap fun r =>
      reasonEvents .boardReasonOn .boardReasonOff r.number 0 (boardReasonNumbers r f)
        (holds e.on r) (holds e.off r))

/-! ## §4. Edges. -/

theorem watchReasonEdges_state {α : Type*} [Flagged α] (prior now seen recordOn recordOff : UInt32)
    (r : α) : holds (watchReasonEdges prior now seen recordOn recordOff).state r =
      follow (holds prior r) (holds now r) (holds seen r) := by
  simp [watchReasonEdges, follow]

theorem watchReasonEdges_on {α : Type*} [Flagged α] (prior now seen recordOn recordOff : UInt32)
    (r : α) : holds (watchReasonEdges prior now seen recordOn recordOff).on r =
      (holds (watchReasonEdges prior now seen recordOn recordOff).state r && !holds prior r &&
        holds recordOn r) := by
  simp [watchReasonEdges]

theorem watchReasonEdges_off {α : Type*} [Flagged α] (prior now seen recordOn recordOff : UInt32)
    (r : α) : holds (watchReasonEdges prior now seen recordOn recordOff).off r =
      (holds prior r && !holds (watchReasonEdges prior now seen recordOn recordOff).state r &&
        holds recordOff r) := by
  simp [watchReasonEdges]

/-- What is recorded as ended was seen, and no longer applied. -/
theorem watchReasonEdges_ended {α : Type*} [Flagged α]
    {prior now seen recordOn recordOff : UInt32} {r : α}
    (h : holds (watchReasonEdges prior now seen recordOn recordOff).off r = true) :
    holds seen r = true ∧ holds now r = false := by
  rw [watchReasonEdges_off, watchReasonEdges_state] at h
  unfold follow at h
  cases hseen : holds seen r <;> cases hnow : holds now r <;> simp_all

theorem holds_unitFaultReasons (r : UnitReason) :
    holds unitFaultReasons r = decide (unitReasonLevel r = .fault) := by
  cases r <;> decide

/-- Faults are among the recorded reasons. -/
theorem fault_recorded {r : UnitReason} (hr : unitReasonLevel r = .fault) (unitsSeen : Bool) :
    holds (if unitsSeen then unitRecordedReasons else unitRecordedReasons &&& unitFaultReasons) r =
      true := by
  have hrecorded : holds unitRecordedReasons r = true := by
    revert hr
    cases r <;> decide
  cases unitsSeen with
  | true => exact hrecorded
  | false =>
      rw [if_neg Bool.false_ne_true, holds_and, hrecorded, holds_unitFaultReasons, hr]
      rfl

/-! ## §5. Entries of one reason. -/

/-- The starts and ends in a log, of one reason at one address. -/
def entries (entry : EventKind → Option Bool) (detail unit : Nat) (log : List Event) : List Bool :=
  log.filterMap fun e => if e.detail = detail ∧ e.unit = unit then entry e.kind else none

def unitEntry : EventKind → Option Bool
  | .unitReasonOn => some true
  | .unitReasonOff => some false
  | _ => none

def boardEntry : EventKind → Option Bool
  | .boardReasonOn => some true
  | .boardReasonOff => some false
  | _ => none

variable {entry : EventKind → Option Bool} {detail unit : Nat}

theorem entries_append (as bs : List Event) :
    entries entry detail unit (as ++ bs) =
      entries entry detail unit as ++ entries entry detail unit bs :=
  List.filterMap_append

theorem entries_flatMap {α : Type*} (l : List α) (f : α → List Event) :
    entries entry detail unit (l.flatMap f) = l.flatMap fun x => entries entry detail unit (f x) := by
  induction l with
  | nil => rfl
  | cons x l ih => rw [List.flatMap_cons, entries_append, ih, List.flatMap_cons]

theorem entries_of_others {log : List Event}
    (h : ∀ e ∈ log, e.detail = detail → e.unit = unit → entry e.kind = none) :
    entries entry detail unit log = [] := by
  unfold entries
  rw [List.filterMap_eq_nil_iff]
  intro e he
  split
  · next hsame => exact h e he hsame.1 hsame.2
  · rfl

theorem mem_reasonEvents {onKind offKind : EventKind} {numbers : UInt32 × UInt32} {on off : Bool}
    {e : Event} (he : e ∈ reasonEvents onKind offKind detail unit numbers on off) :
    e.detail = detail ∧ e.unit = unit ∧
      (e.kind = onKind ∧ on = true ∨ e.kind = offKind ∧ off = true) := by
  unfold reasonEvents at he
  rcases List.mem_append.mp he with he | he
  · cases on with
    | false => exact absurd he List.not_mem_nil
    | true =>
        rw [if_pos rfl, List.mem_singleton] at he
        subst he
        exact ⟨rfl, rfl, Or.inl ⟨rfl, rfl⟩⟩
  · cases off with
    | false => exact absurd he List.not_mem_nil
    | true =>
        rw [if_pos rfl, List.mem_singleton] at he
        subst he
        exact ⟨rfl, rfl, Or.inr ⟨rfl, rfl⟩⟩

/-- The entries of a reason itself. -/
theorem entries_reasonEvents {onKind offKind : EventKind} (hon : entry onKind = some true)
    (hoff : entry offKind = some false) (numbers : UInt32 × UInt32) (on off : Bool) :
    entries entry detail unit (reasonEvents onKind offKind detail unit numbers on off) =
      (if on then [true] else []) ++ if off then [false] else [] := by
  unfold reasonEvents entries
  cases on <;> cases off <;> simp [hon, hoff]

/-- A loop over the reasons makes the entries of each reason once. -/
theorem entries_order {α : Type*} [Flagged α] {order : List α} (hnodup : order.Nodup)
    {onKind offKind : EventKind} (hon : entry onKind = some true) (hoff : entry offKind = some false)
    (unit : Nat) (numbers : α → UInt32 × UInt32) (on off : α → Bool) {r : α} (hr : r ∈ order) :
    entries entry (Flagged.number r) unit (order.flatMap fun q =>
        reasonEvents onKind offKind (Flagged.number q) unit (numbers q) (on q) (off q)) =
      (if on r then [true] else []) ++ if off r then [false] else [] := by
  rw [entries_flatMap, flatMap_only hnodup hr, entries_reasonEvents hon hoff]
  intro q _ hq
  apply entries_of_others
  intro e he hdetail
  exact absurd (Flagged.number_injective ((mem_reasonEvents he).1.symm.trans hdetail)) hq

variable {r : UnitReason}

theorem fault_mem_order (hr : unitReasonLevel r = .fault) : r ∈ UNIT_REASON_ORDER := by
  rw [mem_unit_reason_order]
  rintro rfl
  exact absurd hr (by decide)

/-- A look at a unit records of a fault the change from what was remembered of it. -/
theorem watchUnit_entries (hr : unitReasonLevel r = .fault) (w : WatchedUnit) (u : UnitFacts)
    (address : Nat) (nowMs : UInt32) (hold worn unitsSeen : Bool) :
    entries unitEntry r.number address
        (watchUnit w u address nowMs hold worn unitsSeen).2 =
      edge (holds w.unitReasons r)
        (holds (watchUnit w u address nowMs hold worn unitsSeen).1.unitReasons r) := by
  unfold watchUnit
  cases hold with
  | true =>
      show [] = edge (holds w.unitReasons r) (holds w.unitReasons r)
      exact (if_pos rfl).symm
  | false =>
      rw [if_neg Bool.false_ne_true]
      dsimp only
      rw [entries_append, entries_append]
      have hrestart (c : Bool) : entries unitEntry r.number address
          (if c then restartEvents u address else []) = [] := by
        apply entries_of_others
        intro e he _ _
        cases c with
        | false => exact absurd he List.not_mem_nil
        | true =>
            rw [if_pos rfl] at he
            rw [List.mem_singleton.mp he]
            rfl
      have hfailed (c : Prop) [Decidable c] (f : HomeFailWatch) :
          entries unitEntry r.number address (if c then homeFailEvents f u address else []) =
            [] := by
        apply entries_of_others
        intro e he hdetail _
        split at he
        · rw [List.mem_singleton.mp he] at hdetail
          have hbefore : UnitReason.homeFailedBefore = r := Flagged.number_injective hdetail
          subst hbefore
          exact absurd hr (by decide)
        · exact absurd he List.not_mem_nil
      rw [hrestart, hfailed, List.nil_append, List.nil_append]
      unfold unitReasonEvents
      rw [show r.number = Flagged.number r from rfl]
      refine (entries_order unit_reason_order_nodup rfl rfl _ _ _ _ (fault_mem_order hr)).trans ?_
      unfold unitEdges
      rw [watchReasonEdges_on, watchReasonEdges_off, fault_recorded hr, holds_unitFaultReasons, hr,
        Bool.and_true]
      show (if (_ : Bool) then [true] else []) ++
        (if (_ && decide (VerdictLevel.fault = .fault)) then [false] else []) = _
      rw [decide_eq_true rfl, Bool.and_true]
      exact edge_eq _ _

/-- Every entry about a unit carries its address. -/
theorem watchUnit_address {w : WatchedUnit} {u : UnitFacts} {address : Nat} {nowMs : UInt32}
    {hold worn unitsSeen : Bool} {e : Event}
    (he : e ∈ (watchUnit w u address nowMs hold worn unitsSeen).2) :
    e.unit = address ∧ boardEntry e.kind = none := by
  unfold watchUnit at he
  cases hold with
  | true => exact absurd he List.not_mem_nil
  | false =>
      rw [if_neg Bool.false_ne_true] at he
      dsimp only at he
      rw [List.mem_append, List.mem_append] at he
      rcases he with (he | he) | he
      · split at he
        · rw [List.mem_singleton.mp he]
          exact ⟨rfl, rfl⟩
        · exact absurd he List.not_mem_nil
      · split at he
        · rw [List.mem_singleton.mp he]
          exact ⟨rfl, rfl⟩
        · exact absurd he List.not_mem_nil
      · obtain ⟨q, -, he⟩ := List.mem_flatMap.mp he
        obtain ⟨-, hunit, hkind⟩ := mem_reasonEvents he
        refine ⟨hunit, ?_⟩
        rcases hkind with ⟨hkind, -⟩ | ⟨hkind, -⟩
        · rw [hkind]
          rfl
        · rw [hkind]
          rfl

theorem unitAddress_inj {i j : Fin UNITS_AMOUNT} (h : unitAddress i = unitAddress j) : i = j := by
  apply Fin.ext
  unfold unitAddress at h
  omega

variable (w : WatchBoard) (units : Fin UNITS_AMOUNT → UnitFacts) (width : Int) (nowMs : UInt32)
  (hold : Bool)

theorem watchPlace_address {j : Fin UNITS_AMOUNT} {e : Event}
    (he : e ∈ (watchPlace w units width nowMs hold j).2) :
    e.unit = unitAddress j ∧ boardEntry e.kind = none := by
  unfold watchPlace at he
  split at he
  · exact watchUnit_address he
  · exact absurd he List.not_mem_nil

/-- A look at a row records of each unit's fault the change from what was remembered. -/
theorem watchUnits_entries (hr : unitReasonLevel r = .fault) (i : Fin UNITS_AMOUNT) :
    entries unitEntry r.number (unitAddress i) (watchUnits w units width nowMs hold).2 =
      edge (holds (w.units i).unitReasons r)
        (holds ((watchUnits w units width nowMs hold).1.units i).unitReasons r) := by
  have hplace : entries unitEntry r.number (unitAddress i)
      (watchPlace w units width nowMs hold i).2 = edge (holds (w.units i).unitReasons r)
        (holds (watchPlace w units width nowMs hold i).1.unitReasons r) := by
    unfold watchPlace
    split
    · exact watchUnit_entries hr _ _ _ _ _ _ _
    · exact (if_pos rfl).symm
  unfold watchUnits
  rw [entries_flatMap, flatMap_only (List.nodup_finRange _) (List.mem_finRange i)]
  · exact hplace
  · intro j _ hj
    apply entries_of_others
    intro e he _ hunit
    have haddress := (watchPlace_address w units width nowMs hold he).1
    exact absurd (unitAddress_inj (haddress.symm.trans hunit)) hj

theorem watchUnits_boardEntries (detail unit : Nat) :
    entries boardEntry detail unit (watchUnits w units width nowMs hold).2 = [] := by
  apply entries_of_others
  intro e he _ _
  obtain ⟨j, -, he⟩ := List.mem_flatMap.mp he
  exact (watchPlace_address w units width nowMs hold he).2

/-- A look at a board records of each recorded reason the change from what was remembered. -/
theorem watchBoard_entries {q : BoardReason} (hq : holds boardRecordedReasons q = true)
    (f : BoardFacts) :
    entries boardEntry q.number 0 (watchBoard w f).2 =
      edge (holds w.boardReasons q) (holds (watchBoard w f).1.boardReasons q) := by
  have hmem : q ∈ BOARD_REASON_ORDER := by
    rw [mem_board_reason_order]
    rintro rfl
    exact absurd hq (by decide)
  show entries boardEntry (Flagged.number q) 0 (BOARD_REASON_ORDER.flatMap fun r =>
    reasonEvents .boardReasonOn .boardReasonOff (Flagged.number r) 0 (boardReasonNumbers r f)
      (holds (boardEdges w f).on r) (holds (boardEdges w f).off r)) =
    edge _ (holds (boardEdges w f).state q)
  have hon : boardEntry .boardReasonOn = some true := rfl
  have hoff : boardEntry .boardReasonOff = some false := rfl
  refine (entries_order board_reason_order_nodup hon hoff _ _ _ _ hmem).trans ?_
  unfold boardEdges
  rw [watchReasonEdges_on, watchReasonEdges_off, hq, Bool.and_true, Bool.and_true]
  exact edge_eq _ _

theorem watchBoard_unitEntries (detail unit : Nat) (f : BoardFacts) :
    entries unitEntry detail unit (watchBoard w f).2 = [] := by
  apply entries_of_others
  intro e he _ _
  obtain ⟨q, -, he⟩ := List.mem_flatMap.mp he
  rcases (mem_reasonEvents he).2.2 with ⟨hkind, -⟩ | ⟨hkind, -⟩
  · rw [hkind]
    rfl
  · rw [hkind]
    rfl

/-! ## §6. Looks. -/

inductive Look where
  | units (units : Fin UNITS_AMOUNT → UnitFacts) (width : Int) (nowMs : UInt32) (hold : Bool)
  | board (facts : BoardFacts)

def watch (w : WatchBoard) : Look → WatchBoard × List Event
  | .units units width nowMs hold => watchUnits w units width nowMs hold
  | .board facts => watchBoard w facts

/-- All that is recorded, look after look. -/
def record (w : WatchBoard) : List Look → List Event
  | [] => []
  | l :: ls => (watch w l).2 ++ record (watch w l).1 ls

theorem record_unit_alternates (hr : unitReasonLevel r = .fault) (i : Fin UNITS_AMOUNT)
    (looks : List Look) :
    Alternates (holds (w.units i).unitReasons r)
      (entries unitEntry r.number (unitAddress i) (record w looks)) := by
  induction looks generalizing w with
  | nil => exact trivial
  | cons l looks ih =>
      unfold record
      rw [entries_append]
      cases l with
      | units units width nowMs hold =>
          show Alternates _ (entries _ _ _ (watchUnits w units width nowMs hold).2 ++ _)
          rw [watchUnits_entries w units width nowMs hold hr i]
          exact (ih _).edge _
      | board facts =>
          show Alternates _ (entries _ _ _ (watchBoard w facts).2 ++ _)
          rw [watchBoard_unitEntries, List.nil_append]
          exact ih (watchBoard w facts).1

theorem record_board_alternates {q : BoardReason} (hq : holds boardRecordedReasons q = true)
    (looks : List Look) :
    Alternates (holds w.boardReasons q) (entries boardEntry q.number 0 (record w looks)) := by
  induction looks generalizing w with
  | nil => exact trivial
  | cons l looks ih =>
      unfold record
      rw [entries_append]
      cases l with
      | units units width nowMs hold =>
          show Alternates _ (entries _ _ _ (watchUnits w units width nowMs hold).2 ++ _)
          rw [watchUnits_boardEntries, List.nil_append]
          exact ih (watchUnits w units width nowMs hold).1
      | board facts =>
          show Alternates _ (entries _ _ _ (watchBoard w facts).2 ++ _)
          rw [watchBoard_entries w hq facts]
          exact (ih _).edge _

/-! ## §7. Evidence. -/

/-- The context the look judges unit `i` in. -/
def rowContext (i : Fin UNITS_AMOUNT) : UnitVerdictContext :=
  lookContext (w.units i) (units i) nowMs hold (wearFlagged units width i)

/-- An end of a unit's reason: the look sees the unit, its facts speak for the reason, and
it does not apply. -/
theorem watchUnits_ended {e : Event} (he : e ∈ (watchUnits w units width nowMs hold).2)
    (hkind : e.kind = .unitReasonOff) :
    ∃ i q, e.unit = unitAddress i ∧ e.detail = UnitReason.number q ∧ ((i : Nat) : Int) < width ∧
      hold = false ∧ holds (unitReasonsObservable (units i)) q = true ∧
      holds (unitReasonsOf (units i) (rowContext w units width nowMs hold i)) q = false := by
  obtain ⟨i, -, he⟩ := List.mem_flatMap.mp he
  unfold watchPlace at he
  by_cases hwidth : ((i : Nat) : Int) < width
  · rw [if_pos hwidth] at he
    unfold watchUnit at he
    cases hold with
    | true => exact absurd he List.not_mem_nil
    | false =>
        rw [if_neg Bool.false_ne_true] at he
        dsimp only at he
        rw [List.mem_append, List.mem_append] at he
        rcases he with (he | he) | he
        · split at he
          · rw [List.mem_singleton.mp he] at hkind
            exact absurd hkind (fun h => nomatch h)
          · exact absurd he List.not_mem_nil
        · split at he
          · rw [List.mem_singleton.mp he] at hkind
            exact absurd hkind (fun h => nomatch h)
          · exact absurd he List.not_mem_nil
        · obtain ⟨q, -, he⟩ := List.mem_flatMap.mp he
          obtain ⟨hdetail, hunit, hway⟩ := mem_reasonEvents he
          rcases hway with ⟨hon, -⟩ | ⟨-, hoff⟩
          · rw [hkind] at hon
            exact absurd hon (fun h => nomatch h)
          · obtain ⟨hseen, hgone⟩ := watchReasonEdges_ended hoff
            exact ⟨i, q, hunit, hdetail, hwidth, rfl, hseen, hgone⟩
  · rw [if_neg hwidth] at he
    exact absurd he List.not_mem_nil

theorem watchBoard_ended {f : BoardFacts} {e : Event} (he : e ∈ (watchBoard w f).2)
    (hkind : e.kind = .boardReasonOff) :
    ∃ q, e.detail = BoardReason.number q ∧ holds (boardReasonsObservable f) q = true ∧
      holds (boardReasonsOf f) q = false := by
  obtain ⟨q, -, he⟩ := List.mem_flatMap.mp he
  obtain ⟨hdetail, -, hway⟩ := mem_reasonEvents he
  rcases hway with ⟨hon, -⟩ | ⟨-, hoff⟩
  · rw [hkind] at hon
    exact absurd hon (fun h => nomatch h)
  · obtain ⟨hseen, hgone⟩ := watchReasonEdges_ended hoff
    exact ⟨q, hdetail, hseen, hgone⟩

/-- What applies at a look is remembered after it. -/
theorem watchUnits_remembers {i : Fin UNITS_AMOUNT} (hwidth : ((i : Nat) : Int) < width)
    (happlies : holds (unitReasonsOf (units i) (rowContext w units width nowMs false i)) r = true)
    (hr : r ≠ .homeFailedBefore) :
    holds ((watchUnits w units width nowMs false).1.units i).unitReasons r = true := by
  have hseen := unitReasonsOf_observable _ _ happlies hr
  show holds (watchPlace w units width nowMs false i).1.unitReasons r = true
  unfold watchPlace
  rw [if_pos hwidth]
  show holds (unitEdges (w.units i) (units i) (rowContext w units width nowMs false i)
    w.unitsSeen).state r = true
  unfold unitEdges
  rw [watchReasonEdges_state]
  show follow _ (holds (unitReasonsOf _ _) r) _ = true
  rw [happlies, hseen]
  rfl

theorem watchBoard_remembers {f : BoardFacts} {q : BoardReason}
    (happlies : holds (boardReasonsOf f) q = true) :
    holds (watchBoard w f).1.boardReasons q = true := by
  have hseen := boardReasonsOf_observable f happlies
  show holds (boardEdges w f).state q = true
  unfold boardEdges
  rw [watchReasonEdges_state]
  show follow _ (holds (boardReasonsOf f) q) _ = true
  rw [happlies, hseen]
  rfl

/-- The entries of each fault of a unit, and of each recorded reason of a board, alternate
over any looks, from a start on; an end is recorded where the facts speak for the reason and
it does not apply; and what applies is what the facts speak for, save that a home failed
before, and is remembered. -/
theorem fault_entries_on_evidence :
    (∀ (looks : List Look) (i : Fin UNITS_AMOUNT) (r : UnitReason), unitReasonLevel r = .fault →
      Alternates false (entries unitEntry r.number (unitAddress i) (record {} looks))) ∧
    (∀ (looks : List Look) (q : BoardReason), holds boardRecordedReasons q = true →
      Alternates false (entries boardEntry q.number 0 (record {} looks))) ∧
    (∀ (w : WatchBoard) units width nowMs hold,
      ∀ e ∈ (watchUnits w units width nowMs hold).2, e.kind = .unitReasonOff →
        ∃ i q, e.unit = unitAddress i ∧ e.detail = UnitReason.number q ∧
          ((i : Nat) : Int) < width ∧ hold = false ∧
          holds (unitReasonsObservable (units i)) q = true ∧
          holds (unitReasonsOf (units i) (rowContext w units width nowMs hold i)) q = false) ∧
    (∀ (w : WatchBoard) f, ∀ e ∈ (watchBoard w f).2, e.kind = .boardReasonOff →
      ∃ q, e.detail = BoardReason.number q ∧ holds (boardReasonsObservable f) q = true ∧
        holds (boardReasonsOf f) q = false) ∧
    (∀ u ctx (r : UnitReason), holds (unitReasonsOf u ctx) r = true → r ≠ .homeFailedBefore →
      holds (unitReasonsObservable u) r = true) ∧
    (∀ f (q : BoardReason), holds (boardReasonsOf f) q = true →
      holds (boardReasonsObservable f) q = true) ∧
    (∀ (w : WatchBoard) units width nowMs (i : Fin UNITS_AMOUNT) (r : UnitReason),
      ((i : Nat) : Int) < width →
      holds (unitReasonsOf (units i) (rowContext w units width nowMs false i)) r = true →
      r ≠ .homeFailedBefore →
      holds ((watchUnits w units width nowMs false).1.units i).unitReasons r = true) ∧
    (∀ (w : WatchBoard) f (q : BoardReason), holds (boardReasonsOf f) q = true →
      holds (watchBoard w f).1.boardReasons q = true) := by
  refine ⟨?_, ?_, ?_, ?_, ?_, ?_, ?_, ?_⟩
  · intro looks i r hr
    have halternates := record_unit_alternates {} hr i looks
    rwa [show holds ((({} : WatchBoard).units i).unitReasons) r = false from holds_zero r]
      at halternates
  · intro looks q hq
    have halternates := record_board_alternates {} hq looks
    rwa [show holds ({} : WatchBoard).boardReasons q = false from holds_zero q] at halternates
  · intro w units width nowMs hold e he hkind
    exact watchUnits_ended w units width nowMs hold he hkind
  · intro w f e he hkind
    exact watchBoard_ended w he hkind
  · intro u ctx r happlies hr
    exact unitReasonsOf_observable u ctx happlies hr
  · intro f q happlies
    exact boardReasonsOf_observable f happlies
  · intro w units width nowMs i r hwidth happlies hr
    exact watchUnits_remembers w units width nowMs hwidth happlies hr
  · intro w f q happlies
    exact watchBoard_remembers w happlies

/-- A fault that starts, cannot be read for a look, and ends: two entries. -/
example : (entries unitEntry UnitReason.homeFailed.number 1
    (record {} [
      .units (fun _ => { state := 1, statusValid := true, status := { flags := 0x02 } }) 1 0 false,
      .units (fun _ => { state := 1 }) 1 0 false,
      .units (fun _ => { state := 1, statusValid := true, status := { flags := 0x20 } }) 1 0
        false])) = [true, false] := by
  decide +kernel

end SplitFlap.Watch
