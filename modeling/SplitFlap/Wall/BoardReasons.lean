/-
  SplitFlap.Wall.BoardReasons — what a master makes of one board.

  `BoardVerdict.h`: the reasons that apply to a board, its own row or a row board, and the
  reasons its facts can speak for.  A board that cannot be reached is judged on that alone.
-/
import SplitFlap.Unit.Reasons

namespace SplitFlap.Reasons

open Flags

/-! ## §1. Reasons. -/

inductive BoardReach where
  | up
  | busy
  | away
  | lost
  | never
  deriving DecidableEq

inductive BoardReason where
  | working
  | lost
  | neverSeen
  | rescue
  | busDead
  | updateBlocked
  | unitsMissing
  | unitsFault
  | updating
  | updatingUnits
  | away
  | unitsUnknown
  | clockNotSet
  | firmwareDiffers
  | unitsNote
  deriving DecidableEq

/-- The number the event record stores. -/
def BoardReason.number : BoardReason → Nat
  | .working => 0
  | .lost => 1
  | .neverSeen => 2
  | .rescue => 3
  | .busDead => 4
  | .updateBlocked => 5
  | .unitsMissing => 6
  | .unitsFault => 7
  | .updating => 8
  | .updatingUnits => 9
  | .away => 10
  | .unitsUnknown => 11
  | .clockNotSet => 12
  | .firmwareDiffers => 13
  | .unitsNote => 14

instance : Flagged BoardReason where
  number := BoardReason.number
  number_lt r := by cases r <;> decide
  number_injective q r h := by
    cases q <;> cases r <;> first | rfl | exact absurd h (by decide)

def boardReasonBit (r : BoardReason) : UInt32 := bit r

def boardReasonLevel : BoardReason → VerdictLevel
  | .working => .working
  | .lost | .neverSeen | .rescue | .busDead | .updateBlocked | .unitsMissing | .unitsFault => .fault
  | _ => .note

def BOARD_REASON_ORDER : List BoardReason :=
  [.lost, .neverSeen, .rescue, .busDead, .updateBlocked, .unitsMissing, .unitsFault, .updating,
    .updatingUnits, .away, .unitsUnknown, .clockNotSet, .firmwareDiffers, .unitsNote]

theorem board_reason_order_nodup : BOARD_REASON_ORDER.Nodup := by decide

theorem mem_board_reason_order {r : BoardReason} : r ∈ BOARD_REASON_ORDER ↔ r ≠ .working := by
  cases r <;> decide

/-! ## §2. The judgement. -/

structure BoardFacts where
  /-- The master's own row. -/
  own : Bool := false
  reach : BoardReach := .up
  silentS : UInt32 := 0
  startGraceOver : Bool := true
  rescue : Bool := false
  busDead : Bool := false
  busEpisodes : UInt32 := 0
  updateBlocked : Bool := false
  updateAttempts : UInt8 := 0
  updating : Bool := false
  updatingUnits : Bool := false
  clockSet : Bool := true
  firmwareDiffers : Bool := false
  uptimeS : UInt32 := 0
  unitsPlaced : UInt8 := 0
  unitsKnown : Bool := false
  unitsFound : UInt8 := 0
  unitsFault : UInt8 := 0
  unitsNote : UInt8 := 0

abbrev addBoardReason (c : Bool) (r : BoardReason) (all : UInt32) : UInt32 := addIf c r all

abbrev addBoardReasons (c : Bool) (rs : List BoardReason) (all : UInt32) : UInt32 :=
  addAllIf c rs all

/-- What applies to a board's units, with `all` of the board itself. -/
def boardUnitReasons (f : BoardFacts) (all : UInt32) : UInt32 :=
  let all := addBoardReason f.updatingUnits .updatingUnits all
  let all := addBoardReason (!f.clockSet) .clockNotSet all
  if f.unitsKnown = false then addBoardReason true .unitsUnknown all
  else if f.busDead ∨ f.updatingUnits then all
  else
    let all := addBoardReason (f.unitsFound < f.unitsPlaced) .unitsMissing all
    let all := addBoardReason (f.unitsFault > 0) .unitsFault all
    addBoardReason (f.unitsNote > 0) .unitsNote all

def boardReasonsOf (f : BoardFacts) : UInt32 :=
  if f.own then boardUnitReasons f 0
  else if f.updating then boardReasonBit .updating
  else if f.reach = .lost then boardReasonBit .lost
  else if f.reach = .never then boardReasonBit (if f.startGraceOver then .neverSeen else .away)
  else if f.reach = .away then boardReasonBit .away
  else if f.rescue then boardReasonBit .rescue
  else
    let all := addBoardReason f.busDead .busDead 0
    let all := addBoardReason f.updateBlocked .updateBlocked all
    boardUnitReasons f (addBoardReason f.firmwareDiffers .firmwareDiffers all)

def boardUnitsObservable (f : BoardFacts) (seen : UInt32) : UInt32 :=
  let seen := addBoardReasons true [.updatingUnits, .clockNotSet, .unitsUnknown] seen
  addBoardReasons (f.unitsKnown && !f.busDead && !f.updatingUnits)
    [.unitsMissing, .unitsFault, .unitsNote] seen

def boardReasonsObservable (f : BoardFacts) : UInt32 :=
  let reach := addBoardReasons true [.lost, .neverSeen, .away, .updating] 0
  if f.own then boardUnitsObservable f reach
  else if f.updating ∨ f.reach = .lost ∨ f.reach = .never ∨ f.reach = .away then reach
  else
    let seen := addBoardReason true .rescue reach
    if f.rescue then seen
    else
      boardUnitsObservable f
        (addBoardReasons true [.busDead, .updateBlocked, .firmwareDiffers] seen)

def boardReasonNumbers (r : BoardReason) (f : BoardFacts) : UInt32 × UInt32 :=
  match r with
  | .working => (f.unitsFound.toUInt32, f.uptimeS)
  | .lost | .away => (f.silentS, 0)
  | .busDead => (f.busEpisodes, 0)
  | .updateBlocked => (f.updateAttempts.toUInt32, 0)
  | .unitsMissing => (f.unitsFound.toUInt32, f.unitsPlaced.toUInt32)
  | .unitsFault => (f.unitsFault.toUInt32, f.unitsFound.toUInt32)
  | .unitsNote => (f.unitsNote.toUInt32, f.unitsFound.toUInt32)
  | _ => (0, 0)

def boardReasonLeading (all : UInt32) : BoardReason :=
  (BOARD_REASON_ORDER.find? fun r => holds all r).getD .working

structure BoardVerdict where
  level : VerdictLevel := .working
  reason : BoardReason := .working
  a : UInt32 := 0
  b : UInt32 := 0
  all : UInt32 := 0

def boardVerdict (f : BoardFacts) : BoardVerdict :=
  let all := boardReasonsOf f
  let reason := boardReasonLeading all
  let numbers := boardReasonNumbers reason f
  { level := boardReasonLevel reason, reason, a := numbers.1, b := numbers.2, all }

/-! ## §3. What applies can be seen. -/

@[simp] theorem holds_boardReasonBit (q r : BoardReason) :
    holds (boardReasonBit q) r = decide (q = r) := holds_bit q r

/-- The units' part: what applies can be seen, where it can be for the board itself. -/
theorem boardUnitReasons_observable {f : BoardFacts} {all seen : UInt32}
    (hboard : ∀ r : BoardReason, holds all r = true → holds seen r = true) {r : BoardReason}
    (h : holds (boardUnitReasons f all) r = true) :
    holds (boardUnitsObservable f seen) r = true := by
  have hown (q : BoardReason) (hq : holds (addBoardReason (!f.clockSet) .clockNotSet
      (addBoardReason f.updatingUnits .updatingUnits all)) q = true) :
      holds (boardUnitsObservable f seen) q = true := by
    simp only [holds_addIf, Bool.or_eq_true, Bool.and_eq_true, decide_eq_true_eq] at hq
    unfold boardUnitsObservable
    simp only [holds_addAllIf]
    rcases hq with (hq | ⟨-, rfl⟩) | ⟨-, rfl⟩
    · simp [hboard q hq]
    · simp
    · simp
  unfold boardUnitReasons at h
  by_cases hknown : f.unitsKnown = false
  · rw [if_pos hknown, holds_addIf, Bool.true_and, Bool.or_eq_true, decide_eq_true_eq] at h
    rcases h with h | rfl
    · exact hown r h
    · unfold boardUnitsObservable
      simp
  rw [if_neg hknown] at h
  by_cases hquiet : f.busDead = true ∨ f.updatingUnits = true
  · rw [if_pos hquiet] at h
    exact hown r h
  rw [if_neg hquiet] at h
  rw [not_or, Bool.not_eq_true, Bool.not_eq_true] at hquiet
  rw [Bool.not_eq_false] at hknown
  rw [holds_addIf, holds_addIf, holds_addIf] at h
  simp only [Bool.or_eq_true, Bool.and_eq_true, decide_eq_true_eq] at h
  rcases h with ((h | ⟨-, rfl⟩) | ⟨-, rfl⟩) | ⟨-, rfl⟩
  · exact hown r h
  all_goals
    unfold boardUnitsObservable
    simp [hknown, hquiet]

/-- Every reason that applies to a board is one the same facts speak for. -/
theorem boardReasonsOf_observable (f : BoardFacts) {r : BoardReason}
    (happlies : holds (boardReasonsOf f) r = true) :
    holds (boardReasonsObservable f) r = true := by
  have hnone (q : BoardReason) (hq : holds 0 q = true) :
      holds (addBoardReasons true [.lost, .neverSeen, .away, .updating] 0) q = true :=
    absurd (holds_zero q ▸ hq) Bool.false_ne_true
  unfold boardReasonsOf at happlies
  unfold boardReasonsObservable
  by_cases hrow : f.own = true
  · rw [if_pos hrow] at happlies
    rw [if_pos hrow]
    exact boardUnitReasons_observable hnone happlies
  rw [if_neg hrow] at happlies
  rw [if_neg hrow]
  by_cases hgone : f.updating = true ∨ f.reach = .lost ∨ f.reach = .never ∨ f.reach = .away
  · rw [if_pos hgone]
    -- a board that is away, for whatever reason, is judged by its reach
    have hreach : r ∈ [.lost, .neverSeen, .away, .updating] := by
      split at happlies
      · rw [holds_boardReasonBit, decide_eq_true_eq] at happlies
        simp [← happlies]
      split at happlies
      · rw [holds_boardReasonBit, decide_eq_true_eq] at happlies
        simp [← happlies]
      split at happlies
      · rw [holds_boardReasonBit, decide_eq_true_eq] at happlies
        rw [← happlies]
        split <;> simp
      split at happlies
      · rw [holds_boardReasonBit, decide_eq_true_eq] at happlies
        simp [← happlies]
      · simp_all
    rw [holds_addAllIf, decide_eq_true hreach, Bool.true_and, Bool.or_true]
  rw [if_neg hgone]
  rw [not_or, not_or, not_or] at hgone
  obtain ⟨hupdating, hlost, hnever, haway⟩ := hgone
  rw [if_neg hupdating, if_neg hlost, if_neg hnever, if_neg haway] at happlies
  by_cases hrescue : f.rescue = true
  · rw [if_pos hrescue, holds_boardReasonBit, decide_eq_true_eq] at happlies
    rw [if_pos hrescue, ← happlies]
    simp
  rw [if_neg hrescue] at happlies
  rw [if_neg hrescue]
  refine boardUnitReasons_observable (fun q hq => ?_) happlies
  simp only [holds_addIf, holds_zero, Bool.false_or, Bool.or_eq_true, Bool.and_eq_true,
    decide_eq_true_eq] at hq
  rcases hq with (⟨-, rfl⟩ | ⟨-, rfl⟩) | ⟨-, rfl⟩
  all_goals simp

end SplitFlap.Reasons
