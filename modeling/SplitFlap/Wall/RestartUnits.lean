/-
  SplitFlap.Wall.RestartUnits — a restart of every unit of the wall.

  `RestartUnitsPlan.h`: a cursor over the boards and their units, and the step it
  stands at.  What is `left` is the units from the cursor on; every way to the next
  unit takes one off its front (`advance_spec`).
-/
import SplitFlap.Wall.Ops
import SplitFlap.Wall.Policy

namespace SplitFlap.RestartUnits

/-! ## §1. The plan. -/

abbrev RESTART_UNITS_OWN_ROW : Int := -2

abbrev RESTART_UNITS_BOARDS_MAX : Nat := 9

abbrev RESTART_UNITS_SETTLE_MS : UInt32 := 20000

abbrev RESTART_UNITS_WAIT_MAX_MS : UInt32 := WALL_JOB_UNIT_MS + WALL_JOB_HAND_OVER_MS

inductive RestartUnitsStep where
  | idle
  | start
  | wait
  | settle
  | done
  deriving Repr, DecidableEq

/-- A board's index in the rows table, and its units, addressed `1` to `width`. -/
structure RestartUnitsBoard where
  row : Int := -1
  width : UInt8 := 0
  deriving Repr, DecidableEq

/-- `board` and `unit` are the cursor; `boards` are the first `boardCount`. -/
structure RestartUnitsPlan where
  step : RestartUnitsStep := .idle
  opId : UInt32 := 0
  boards : List RestartUnitsBoard := []
  board : Nat := 0
  unit : UInt8 := 0
  unitOp : UInt32 := 0
  sinceMs : UInt32 := 0
  done : UInt8 := 0
  failed : UInt8 := 0
  stopped : Bool := false
  deriving Repr, DecidableEq

def restartUnitsElapsed (nowMs sinceMs spanMs : UInt32) : Bool := nowMs - sinceMs ≥ spanMs

namespace RestartUnitsPlan

/-- The board the cursor stands on. -/
def here (plan : RestartUnitsPlan) : RestartUnitsBoard := plan.boards.getD plan.board {}

/-- The loop of `restartUnitsAdvance`, with the boards from the cursor on to go. -/
def toNext (plan : RestartUnitsPlan) : Nat → RestartUnitsPlan
  | 0 => { plan with step := .done }
  | boardsLeft + 1 =>
      if plan.unit.toNat + 1 < plan.here.width.toNat then
        { plan with unit := plan.unit + 1, step := .start }
      else
        let plan := { plan with board := plan.board + 1, unit := 0 }
        if plan.board < plan.boards.length ∧ (0 : UInt8) < plan.here.width then
          { plan with step := .start }
        else plan.toNext boardsLeft

/-- `restartUnitsAdvance`: the next unit, or the end. -/
def advance (plan : RestartUnitsPlan) (nowMs : UInt32) : RestartUnitsPlan :=
  { plan with unitOp := 0, sinceMs := nowMs }.toNext (plan.boards.length - plan.board)

/-- `restartUnitsBegin`. -/
def starting (opId : UInt32) (boards : List RestartUnitsBoard) (nowMs : UInt32) :
    RestartUnitsPlan :=
  let kept := (boards.filter fun b => b.width ≠ 0).take RESTART_UNITS_BOARDS_MAX
  { opId := opId
    boards := kept
    sinceMs := nowMs
    step := if kept = [] then .done else .start }

/-- `restartUnitsCurrent`: the unit whose turn it is, while one is. -/
def current (plan : RestartUnitsPlan) : Option (Int × UInt8) :=
  if plan.step = .idle ∨ plan.step = .done then none else some (plan.here.row, plan.unit + 1)

/-- `restartUnitsStarted`. -/
def started (plan : RestartUnitsPlan) (unitOp nowMs : UInt32) : RestartUnitsPlan :=
  { plan with unitOp := unitOp, sinceMs := nowMs, step := .wait }

/-- `restartUnitsStartRefused`. -/
def startRefused (plan : RestartUnitsPlan) (nowMs : UInt32) : RestartUnitsPlan :=
  { plan with failed := plan.failed + 1 }.advance nowMs

/-- `restartUnitsStartBusy`: the row runs another job. -/
def startBusy (plan : RestartUnitsPlan) (nowMs : UInt32) : RestartUnitsPlan :=
  if restartUnitsElapsed nowMs plan.sinceMs RESTART_UNITS_WAIT_MAX_MS then plan.startRefused nowMs
  else plan

/-- `restartUnitsStop`. -/
def stop (plan : RestartUnitsPlan) : RestartUnitsPlan :=
  { plan with stopped := true, unitOp := 0, step := .done }

/-- `restartUnitsJobEnded`: a unit that took the restart gets its time. -/
def jobEnded (plan : RestartUnitsPlan) (ok : Bool) (nowMs : UInt32) : RestartUnitsPlan :=
  if ok then { plan with done := plan.done + 1, sinceMs := nowMs, step := .settle }
  else { plan with failed := plan.failed + 1 }.advance nowMs

/-- `restartUnitsTick`: the settle time passing, a job that never ends. -/
def tick (plan : RestartUnitsPlan) (nowMs : UInt32) : RestartUnitsPlan :=
  match plan.step with
  | .settle =>
      if restartUnitsElapsed nowMs plan.sinceMs RESTART_UNITS_SETTLE_MS then plan.advance nowMs
      else plan
  | .wait =>
      if restartUnitsElapsed nowMs plan.sinceMs RESTART_UNITS_WAIT_MAX_MS then
        { plan with failed := plan.failed + 1 }.advance nowMs
      else plan
  | _ => plan

theorem tick_settle {plan : RestartUnitsPlan} (h : plan.step = .settle) (nowMs : UInt32) :
    plan.tick nowMs =
      if restartUnitsElapsed nowMs plan.sinceMs RESTART_UNITS_SETTLE_MS then plan.advance nowMs
      else plan := by
  unfold tick
  split
  · rfl
  · next hstep => exact absurd (h.symm.trans hstep) (by decide)
  · next hsettle _ => exact absurd h hsettle

theorem tick_wait {plan : RestartUnitsPlan} (h : plan.step = .wait) (nowMs : UInt32) :
    plan.tick nowMs =
      if restartUnitsElapsed nowMs plan.sinceMs RESTART_UNITS_WAIT_MAX_MS then
        { plan with failed := plan.failed + 1 }.advance nowMs
      else plan := by
  unfold tick
  split
  · next hstep => exact absurd (h.symm.trans hstep) (by decide)
  · rfl
  · next hwait => exact absurd h hwait

end RestartUnitsPlan

/-! ## §2. The units left. -/

/-- A board's units, by row and address. -/
def unitsOf (board : RestartUnitsBoard) : List (Int × UInt8) :=
  (List.range board.width.toNat).map fun unit => (board.row, UInt8.ofNat (unit + 1))

def unitsOn (boards : List RestartUnitsBoard) : List (Int × UInt8) := boards.flatMap unitsOf

@[simp] theorem unitsOf_length (board : RestartUnitsBoard) :
    (unitsOf board).length = board.width.toNat := by
  unfold unitsOf
  rw [List.length_map, List.length_range]

/-- Boards without units add none. -/
theorem unitsOn_filter (boards : List RestartUnitsBoard) :
    unitsOn (boards.filter fun b => b.width ≠ 0) = unitsOn boards := by
  unfold unitsOn
  induction boards with
  | nil => rfl
  | cons b boards ih =>
      by_cases hwidth : b.width = 0
      · have hnone : unitsOf b = [] := by
          unfold unitsOf
          rw [hwidth]
          rfl
        rw [List.filter_cons_of_neg (by simpa using hwidth), List.flatMap_cons, hnone,
          List.nil_append, ih]
      · rw [List.filter_cons_of_pos (by simpa using hwidth), List.flatMap_cons, List.flatMap_cons,
          ih]

namespace RestartUnitsPlan

/-- The units from the cursor on. -/
def left (plan : RestartUnitsPlan) : List (Int × UInt8) :=
  match plan.boards.drop plan.board with
  | [] => []
  | b :: rest => (unitsOf b).drop plan.unit.toNat ++ unitsOn rest

/-- The cursor is at a unit, and every board has one. -/
structure Standing (plan : RestartUnitsPlan) : Prop where
  board : plan.board < plan.boards.length
  unit : plan.unit.toNat < plan.here.width.toNat
  widths : ∀ b ∈ plan.boards, 0 < b.width.toNat

variable {plan : RestartUnitsPlan}

theorem here_eq (h : plan.board < plan.boards.length) : plan.here = plan.boards[plan.board] := by
  unfold here
  rw [List.getD_eq_getElem?_getD, List.getElem?_eq_getElem h, Option.getD_some]

theorem left_eq (h : plan.board < plan.boards.length) :
    plan.left = (unitsOf plan.here).drop plan.unit.toNat ++
      unitsOn (plan.boards.drop (plan.board + 1)) := by
  unfold left
  rw [List.drop_eq_getElem_cons h, here_eq h]

theorem left_nil (h : plan.boards.length ≤ plan.board) : plan.left = [] := by
  unfold left
  rw [List.drop_eq_nil_of_le h]

/-- The unit whose turn it is stands first. -/
theorem unit_drop (h : plan.Standing) :
    (unitsOf plan.here).drop plan.unit.toNat =
      (plan.here.row, plan.unit + 1) :: (unitsOf plan.here).drop (plan.unit.toNat + 1) := by
  have hlength : plan.unit.toNat < (unitsOf plan.here).length := by
    rw [unitsOf_length]
    exact h.unit
  rw [List.drop_eq_getElem_cons hlength]
  have hunit : (unitsOf plan.here)[plan.unit.toNat] = (plan.here.row, plan.unit + 1) := by
    simp [unitsOf]
  rw [hunit]

theorem left_cons (h : plan.Standing) :
    plan.left = (plan.here.row, plan.unit + 1) :: plan.left.tail := by
  rw [left_eq h.board, unit_drop h]
  rfl

/-- What a way to the next unit leaves as it was. -/
structure SameCampaign (plan next : RestartUnitsPlan) : Prop where
  boards : next.boards = plan.boards
  done : next.done = plan.done
  failed : next.failed = plan.failed
  stopped : next.stopped = plan.stopped
  sinceMs : next.sinceMs = plan.sinceMs

/-- The next unit has its turn, or there is none. -/
structure Next (plan next : RestartUnitsPlan) : Prop where
  same : SameCampaign plan next
  left : next.left = plan.left.tail
  turn : next.step = .start ∧ next.Standing ∨ next.step = .done ∧ next.left = []

theorem toNext_spec (h : plan.Standing) :
    Next plan (plan.toNext (plan.boards.length - plan.board)) := by
  have hboard := h.board
  obtain ⟨boardsLeft, hleft⟩ : ∃ n, plan.boards.length - plan.board = n + 1 :=
    ⟨plan.boards.length - plan.board - 1, by omega⟩
  have htail : plan.left.tail = (unitsOf plan.here).drop (plan.unit.toNat + 1) ++
      unitsOn (plan.boards.drop (plan.board + 1)) := by
    rw [left_eq hboard, unit_drop h]
    rfl
  rw [hleft, toNext]
  split
  · next hmore =>
      -- The board under way has another unit.
      have hunit : (plan.unit + 1).toNat = plan.unit.toNat + 1 := by
        have hsmall := plan.here.width.toNat_lt
        rw [UInt8.toNat_add]
        show (plan.unit.toNat + 1) % 256 = _
        omega
      have hstanding : { plan with unit := plan.unit + 1, step := .start }.Standing :=
        ⟨hboard, by show (plan.unit + 1).toNat < plan.here.width.toNat; omega, h.widths⟩
      refine ⟨⟨rfl, rfl, rfl, rfl, rfl⟩, ?_, .inl ⟨rfl, hstanding⟩⟩
      rw [htail, left_eq hstanding.board]
      show (unitsOf plan.here).drop (plan.unit + 1).toNat ++ _ = _
      rw [hunit]
  · next hlast =>
      have hnone : (unitsOf plan.here).drop (plan.unit.toNat + 1) = [] := by
        apply List.drop_eq_nil_of_le
        rw [unitsOf_length]
        omega
      rw [hnone, List.nil_append] at htail
      by_cases hnext : plan.board + 1 < plan.boards.length
      · -- Every board of the plan has units.
        have hhere : (plan.boards.getD (plan.board + 1) {}) = plan.boards[plan.board + 1] := by
          rw [List.getD_eq_getElem?_getD, List.getElem?_eq_getElem hnext, Option.getD_some]
        have hwidth : 0 < (plan.boards.getD (plan.board + 1) {}).width.toNat := by
          rw [hhere]
          exact h.widths _ (List.getElem_mem hnext)
        have hpositive : (0 : UInt8) < (plan.boards.getD (plan.board + 1) {}).width :=
          UInt8.lt_iff_toNat_lt.mpr hwidth
        have hstanding :
            { plan with board := plan.board + 1, unit := 0, step := .start }.Standing :=
          ⟨hnext, hwidth, h.widths⟩
        have htake := left_eq hstanding.board
        show Next plan (if plan.board + 1 < plan.boards.length ∧
          (0 : UInt8) < (plan.boards.getD (plan.board + 1) {}).width then _ else _)
        rw [if_pos ⟨hnext, hpositive⟩]
        refine ⟨⟨rfl, rfl, rfl, rfl, rfl⟩, ?_, .inl ⟨rfl, hstanding⟩⟩
        rw [htake, htail]
        show unitsOf (plan.boards.getD (plan.board + 1) {}) ++
          unitsOn (plan.boards.drop (plan.board + 1 + 1)) = _
        rw [hhere, List.drop_eq_getElem_cons hnext]
        rfl
      · have hzero : boardsLeft = 0 := by omega
        have hend : plan.boards.drop (plan.board + 1) = [] :=
          List.drop_eq_nil_of_le (Nat.not_lt.mp hnext)
        show Next plan (if plan.board + 1 < plan.boards.length ∧
          (0 : UInt8) < (plan.boards.getD (plan.board + 1) {}).width then _ else _)
        rw [if_neg (fun hboth => hnext hboth.1), hzero]
        have hdone : ({ plan with board := plan.board + 1, unit := 0, step := .done } :
            RestartUnitsPlan).left = [] := left_nil (Nat.not_lt.mp hnext)
        refine ⟨⟨rfl, rfl, rfl, rfl, rfl⟩, ?_, .inr ⟨rfl, hdone⟩⟩
        rw [htail, hend]
        exact hdone

/-- **The next unit, or the end**: one unit comes off the front of what is left. -/
theorem advance_spec (h : plan.Standing) (nowMs : UInt32) :
    Next { plan with unitOp := 0, sinceMs := nowMs } (plan.advance nowMs) := by
  have hstanding : { plan with unitOp := 0, sinceMs := nowMs }.Standing :=
    ⟨h.board, h.unit, h.widths⟩
  exact toNext_spec hstanding

theorem starting_boards {boards : List RestartUnitsBoard}
    (hfit : boards.length ≤ RESTART_UNITS_BOARDS_MAX) (opId nowMs : UInt32) :
    (starting opId boards nowMs).boards = boards.filter fun b => b.width ≠ 0 := by
  apply List.take_of_length_le
  exact (List.length_filter_le _ _).trans hfit

/-- A plan begins before the first unit of its boards, or has none. -/
theorem starting_spec {boards : List RestartUnitsBoard}
    (hfit : boards.length ≤ RESTART_UNITS_BOARDS_MAX) (opId nowMs : UInt32) :
    (starting opId boards nowMs).left = unitsOn boards ∧
      ((starting opId boards nowMs).step = .start ∧ (starting opId boards nowMs).Standing ∨
        (starting opId boards nowMs).step = .done ∧ (starting opId boards nowMs).left = []) := by
  have hboards := starting_boards hfit opId nowMs
  have hkept : (boards.filter fun b => b.width ≠ 0).take RESTART_UNITS_BOARDS_MAX =
      boards.filter fun b => b.width ≠ 0 := hboards
  have hwidths : ∀ b ∈ (starting opId boards nowMs).boards, 0 < b.width.toNat := by
    intro b hmem
    rw [hboards, List.mem_filter] at hmem
    have hne : b.width ≠ 0 := of_decide_eq_true hmem.2
    rw [Nat.pos_iff_ne_zero]
    exact fun hzero => hne (UInt8.toNat_inj.mp hzero)
  cases hlist : boards.filter fun b => b.width ≠ 0 with
  | nil =>
      have hnone : (starting opId boards nowMs).left = [] := by
        apply left_nil
        rw [hboards, hlist]
        exact Nat.zero_le _
      have hstep : (starting opId boards nowMs).step = .done := by
        show (if _ = _ then _ else _) = _
        rw [hkept, hlist]
        rfl
      refine ⟨?_, .inr ⟨hstep, hnone⟩⟩
      rw [hnone, ← unitsOn_filter, hlist]
      rfl
  | cons b rest =>
      have hboard : (starting opId boards nowMs).board < (starting opId boards nowMs).boards.length := by
        rw [hboards, hlist]
        exact Nat.succ_pos _
      have hhere : (starting opId boards nowMs).here = b := by
        rw [here_eq hboard]
        simp only [hboards, hlist]
        rfl
      have hstep : (starting opId boards nowMs).step = .start := by
        show (if _ = _ then _ else _) = _
        rw [hkept, hlist]
        rfl
      have hunit : (starting opId boards nowMs).unit.toNat <
          (starting opId boards nowMs).here.width.toNat := by
        rw [here_eq hboard]
        exact hwidths _ (List.getElem_mem hboard)
      refine ⟨?_, .inl ⟨hstep, hboard, hunit, hwidths⟩⟩
      have hunits : unitsOn boards = unitsOf b ++ unitsOn rest := by
        rw [← unitsOn_filter, hlist]
        rfl
      rw [left_eq hboard, hhere, hboards, hlist, hunits]
      rfl

end RestartUnitsPlan

end SplitFlap.RestartUnits
