/-
  SplitFlap.Record.Wear — which drums of a row have turned far more than the others.

  `WearPolicy.h` collects the odometers that were read, sorts them in place, takes the lower
  middle one and flags what is far over it.  The watch of the record states the same verdict
  of one drum (`wearFlagged`).  `assessWear_correct` ties the two, and says that the lower
  middle keeps at least half of the drums that were read out of the verdict.
-/
import SplitFlap.Lib.InsertionSort
import SplitFlap.Record.Watch

namespace SplitFlap.Wear

open Bus (UNITS_AMOUNT)
open InsertionSort (sortInPlace sortInPlace_perm sortInPlace_sorted)
open Watch (WEAR_FLAG_FLOOR_REVS WEAR_FLAG_RATIO wearMedian wearThreshold wearFlagged)

/-! ## §1. The assessment. -/

structure WearAssessment where
  median : UInt32 := 0
  validCount : Nat := 0
  flaggedCount : Nat := 0
  flagged : Fin UNITS_AMOUNT → Bool := fun _ => false

/-- The indices of the loops, after the clamp of `n`. -/
def rowOf (n : Int) : List (Fin UNITS_AMOUNT) :=
  (List.finRange UNITS_AMOUNT).filter fun i : Fin UNITS_AMOUNT => ((i : Nat) : Int) < n

/-- The odometers the first loop keeps. -/
def validOdometers (units : Fin UNITS_AMOUNT → UnitFacts) (n : Int) : List UInt32 :=
  ((rowOf n).filter fun i => (units i).odometerValid).map fun i => (units i).odometer

def flagThreshold (median : UInt32) : Nat :=
  let threshold := median.toNat * WEAR_FLAG_RATIO
  let floorBound := median.toNat + WEAR_FLAG_FLOOR_REVS
  if threshold < floorBound then floorBound else threshold

def isWorn (units : Fin UNITS_AMOUNT → UnitFacts) (threshold : Nat) (i : Fin UNITS_AMOUNT) :
    Bool :=
  (units i).odometerValid && threshold < (units i).odometer.toNat

/-- One turn of the last loop. -/
def flagDrum (units : Fin UNITS_AMOUNT → UnitFacts) (threshold : Nat) (out : WearAssessment)
    (i : Fin UNITS_AMOUNT) : WearAssessment :=
  if isWorn units threshold i then
    { out with
      flagged := Function.update out.flagged i true
      flaggedCount := out.flaggedCount + 1 }
  else out

def assessWear (units : Fin UNITS_AMOUNT → UnitFacts) (n : Int) : WearAssessment :=
  let valid := validOdometers units n
  if valid.length = 0 then {}
  else
    let median := (sortInPlace valid)[(valid.length - 1) / 2]?.getD 0
    (rowOf n).foldl (flagDrum units (flagThreshold median))
      { median, validCount := valid.length }

/-! ## §2. The threshold and the middle. -/

theorem flagThreshold_eq (median : UInt32) : flagThreshold median = wearThreshold median := by
  simp only [flagThreshold, wearThreshold, WEAR_FLAG_RATIO, WEAR_FLAG_FLOOR_REVS]
  split <;> omega

theorem le_flagThreshold (median : UInt32) : median.toNat ≤ flagThreshold median := by
  simp only [flagThreshold, WEAR_FLAG_RATIO, WEAR_FLAG_FLOOR_REVS]
  split <;> omega

/-- Sorted in place or merged: the same list. -/
theorem sortInPlace_eq_mergeSort (xs : List UInt32) :
    sortInPlace xs = xs.mergeSort (· ≤ ·) := by
  have hperm : (sortInPlace xs).Perm (xs.mergeSort (· ≤ ·)) :=
    (sortInPlace_perm xs).trans (List.mergeSort_perm xs _).symm
  have hmerged : (xs.mergeSort (· ≤ ·)).Pairwise fun a b : UInt32 => a ≤ b := by
    have hsorted : (xs.mergeSort fun a b => decide (a ≤ b)).Pairwise
        fun a b => decide (a ≤ b) = true :=
      List.pairwise_mergeSort (by simpa using fun a b c : UInt32 => UInt32.le_trans)
        (by simpa using fun a b : UInt32 => UInt32.le_total a b) xs
    simpa using hsorted
  exact hperm.eq_of_pairwise (fun a b _ _ hab hba => UInt32.le_antisymm hab hba)
    (sortInPlace_sorted xs) hmerged

theorem wearMedian_eq (xs : List UInt32) :
    (sortInPlace xs)[(xs.length - 1) / 2]?.getD 0 = wearMedian xs := by
  rw [sortInPlace_eq_mergeSort, wearMedian]

/-- At most what stands behind a place of a sorted list is over it. -/
theorem countP_over_place (xs : List UInt32) (hsorted : xs.Pairwise (· ≤ ·)) (k bound : Nat)
    (hk : k < xs.length) (hbound : (xs[k]?.getD 0).toNat ≤ bound) :
    xs.countP (fun x => bound < x.toNat) ≤ xs.length - (k + 1) := by
  have hplace : xs[k]?.getD 0 = xs[k] := by rw [List.getElem?_eq_getElem hk, Option.getD_some]
  have hfront : (xs.take (k + 1)).countP (fun x => bound < x.toNat) = 0 := by
    rw [List.countP_eq_zero]
    intro x hx
    obtain ⟨j, hj, hjx⟩ := List.mem_iff_getElem.mp hx
    rw [List.length_take] at hj
    rw [List.getElem_take] at hjx
    have hle : xs[j] ≤ xs[k] := by
      obtain heq | hlt := Nat.eq_or_lt_of_le (show j ≤ k by omega)
      · subst heq
        exact UInt32.le_refl _
      · exact List.pairwise_iff_getElem.mp hsorted j k (by omega) hk hlt
    have hxk : x.toNat ≤ bound := by
      rw [← hjx]
      exact Nat.le_trans (UInt32.le_iff_toNat_le.mp hle) (hplace ▸ hbound)
    simpa using hxk
  have hback := List.countP_le_length (p := fun x : UInt32 => bound < x.toNat)
    (l := xs.drop (k + 1))
  calc xs.countP (fun x => bound < x.toNat)
      = (xs.take (k + 1)).countP (fun x => bound < x.toNat) +
          (xs.drop (k + 1)).countP (fun x => bound < x.toNat) := by
        rw [← List.countP_append, List.take_append_drop]
    _ ≤ xs.length - (k + 1) := by
        rw [hfront, Nat.zero_add, ← List.length_drop]
        exact hback

/-- The lower middle leaves at most half over it. -/
theorem countP_over_median (xs : List UInt32) (bound : Nat)
    (hbound : (wearMedian xs).toNat ≤ bound) :
    2 * xs.countP (fun x => bound < x.toNat) ≤ xs.length := by
  by_cases hempty : xs.length = 0
  · rw [List.length_eq_zero_iff.mp hempty]
    simp
  have hlen : (sortInPlace xs).length = xs.length := (sortInPlace_perm xs).length_eq
  rw [← wearMedian_eq] at hbound
  have hover := countP_over_place (sortInPlace xs) (sortInPlace_sorted xs) ((xs.length - 1) / 2)
    bound (by omega) hbound
  rw [(sortInPlace_perm xs).countP_eq, hlen] at hover
  omega

/-! ## §3. The loop over the drums. -/

/-- What the last loop adds to what it started with. -/
structure Flagged (units : Fin UNITS_AMOUNT → UnitFacts) (threshold : Nat)
    (row : List (Fin UNITS_AMOUNT)) (before after : WearAssessment) : Prop where
  median : after.median = before.median
  validCount : after.validCount = before.validCount
  flaggedCount : after.flaggedCount = before.flaggedCount + row.countP (isWorn units threshold)
  flagged : ∀ i, after.flagged i = true ↔
    before.flagged i = true ∨ i ∈ row ∧ isWorn units threshold i = true

variable (units : Fin UNITS_AMOUNT → UnitFacts) (n : Int)

theorem flagDrum_flagged (threshold : Nat) (out : WearAssessment) (i : Fin UNITS_AMOUNT) :
    Flagged units threshold [i] out (flagDrum units threshold out i) := by
  unfold flagDrum
  by_cases hworn : isWorn units threshold i = true
  · rw [if_pos hworn]
    refine ⟨rfl, rfl, by simp [hworn], ?_⟩
    intro j
    by_cases hj : j = i
    · subst hj
      simp [hworn]
    · simp [hj]
  · rw [if_neg hworn]
    refine ⟨rfl, rfl, by simp [hworn], ?_⟩
    intro j
    rw [List.mem_singleton]
    constructor
    · exact Or.inl
    · rintro (h | ⟨rfl, h⟩)
      · exact h
      · exact absurd h hworn

theorem foldl_flagged (threshold : Nat) (row : List (Fin UNITS_AMOUNT)) (out : WearAssessment) :
    Flagged units threshold row out (row.foldl (flagDrum units threshold) out) := by
  induction row generalizing out with
  | nil => exact ⟨rfl, rfl, rfl, by simp⟩
  | cons i row ih =>
      have hone := flagDrum_flagged units threshold out i
      have hrest := ih (flagDrum units threshold out i)
      refine ⟨hrest.median.trans hone.median, hrest.validCount.trans hone.validCount, ?_, ?_⟩
      · rw [List.foldl_cons, hrest.flaggedCount, hone.flaggedCount, List.countP_singleton,
          List.countP_cons]
        omega
      · intro j
        rw [List.foldl_cons, hrest.flagged, hone.flagged, List.mem_singleton, List.mem_cons]
        grind

/-! ## §4. The assessment is the watch's. -/

theorem wearFlagged_iff (i : Fin UNITS_AMOUNT) :
    wearFlagged units n i = true ↔
      i ∈ rowOf n ∧
        isWorn units (wearThreshold (wearMedian (validOdometers units n))) i = true := by
  have hrow : i ∈ rowOf n ↔ ((i : Nat) : Int) < n := by simp [rowOf]
  rw [hrow]
  simp only [wearFlagged, isWorn, validOdometers, rowOf, Bool.and_eq_true, decide_eq_true_eq]
  grind

theorem isWorn_countP (threshold : Nat) :
    (rowOf n).countP (isWorn units threshold) =
      (validOdometers units n).countP fun x => threshold < x.toNat := by
  rw [validOdometers, List.countP_map, List.countP_filter]
  apply List.countP_congr
  intro i _
  simp only [isWorn, Function.comp_apply, Bool.and_comm]

theorem assessWear_none (hnone : (validOdometers units n).length = 0) :
    assessWear units n = {} := by
  rw [assessWear, if_pos hnone]

theorem assessWear_some (hsome : (validOdometers units n).length ≠ 0) :
    Flagged units (wearThreshold (wearMedian (validOdometers units n))) (rowOf n)
      { median := wearMedian (validOdometers units n)
        validCount := (validOdometers units n).length } (assessWear units n) := by
  rw [assessWear, if_neg hsome, wearMedian_eq, ← flagThreshold_eq]
  exact foldl_flagged units _ (rowOf n) _

/-- The arrays of the assessment and the one drum's verdict of the watch agree, the counts are
    those of the row, and at most half of the drums that were read are flagged. -/
theorem assessWear_correct :
    (assessWear units n).median = wearMedian (validOdometers units n) ∧
      (assessWear units n).validCount = (validOdometers units n).length ∧
      (∀ i, (assessWear units n).flagged i = wearFlagged units n i) ∧
      (assessWear units n).flaggedCount = (rowOf n).countP (wearFlagged units n) ∧
      2 * (assessWear units n).flaggedCount ≤ (assessWear units n).validCount := by
  have hcount : (rowOf n).countP (wearFlagged units n) =
      (validOdometers units n).countP fun x =>
        wearThreshold (wearMedian (validOdometers units n)) < x.toNat := by
    rw [← isWorn_countP]
    apply List.countP_congr
    intro i hi
    rw [wearFlagged_iff]
    exact and_iff_right hi
  by_cases hnone : (validOdometers units n).length = 0
  · -- nothing was read: nothing is flagged
    have hnil : validOdometers units n = [] := List.length_eq_zero_iff.mp hnone
    rw [hnil, List.countP_nil] at hcount
    rw [assessWear_none units n hnone, hnil, hcount]
    refine ⟨by simp [wearMedian], rfl, ?_, rfl, Nat.le_refl 0⟩
    intro i
    show false = wearFlagged units n i
    rw [eq_comm, Bool.eq_false_iff]
    intro hflagged
    have hi := (wearFlagged_iff units n i).mp hflagged
    have hpos := List.countP_eq_zero.mp hcount i hi.1
    exact hpos hflagged
  · have hsome := assessWear_some units n hnone
    have hflaggedCount : (assessWear units n).flaggedCount =
        (validOdometers units n).countP fun x =>
          wearThreshold (wearMedian (validOdometers units n)) < x.toNat := by
      rw [hsome.flaggedCount, isWorn_countP]
      exact Nat.zero_add _
    refine ⟨hsome.median, hsome.validCount, ?_, hflaggedCount.trans hcount.symm, ?_⟩
    · intro i
      rw [Bool.eq_iff_iff, hsome.flagged, wearFlagged_iff]
      exact or_iff_right Bool.false_ne_true
    · rw [hflaggedCount, hsome.validCount]
      apply countP_over_median
      rw [← flagThreshold_eq]
      exact le_flagThreshold _

end SplitFlap.Wear
