/-
  SplitFlap.Lib.Slots — an array used as a list by a count.

  The first `count` cells are in use.  A value is added behind them; the one in cell `k`
  is removed by moving those behind it down by one, in place (`shiftDown`).  Read as a
  list (`firsts`), the first is an append and the second an `eraseIdx`.
-/
import Mathlib.Data.List.Basic
import Mathlib.Tactic.Common

namespace SplitFlap.Slots

variable {α β : Type*}

/-! ## §1. The cells in use. -/

/-- What a cell holds, for the cells in use. -/
def firsts (cell : Nat → α) (count : Nat) : List α := (List.range count).map cell

@[simp] theorem length_firsts (cell : Nat → α) (count : Nat) :
    (firsts cell count).length = count := by
  simp [firsts]

theorem getElem_firsts (cell : Nat → α) {count j : Nat} (h : j < (firsts cell count).length) :
    (firsts cell count)[j] = cell j := by
  simp [firsts]

theorem firsts_congr {cell cell' : Nat → α} {count : Nat} (h : ∀ j < count, cell j = cell' j) :
    firsts cell count = firsts cell' count :=
  List.map_congr_left fun j hj => h j (List.mem_range.mp hj)

theorem firsts_succ (cell : Nat → α) (count : Nat) :
    firsts cell (count + 1) = firsts cell count ++ [cell count] := by
  simp [firsts, List.range_succ]

/-- Cell `k` is left out, those behind it stand one lower. -/
theorem firsts_removed {cell cell' : Nat → α} {count k : Nat} (hk : k < count)
    (hbelow : ∀ j < k, cell' j = cell j)
    (habove : ∀ j, k ≤ j → j < count - 1 → cell' j = cell (j + 1)) :
    firsts cell' (count - 1) = (firsts cell count).eraseIdx k := by
  apply List.ext_getElem
  · rw [List.length_eraseIdx, length_firsts, length_firsts, if_pos hk]
  · intro j hj hj'
    rw [length_firsts] at hj
    rw [getElem_firsts, List.getElem_eraseIdx]
    split
    · next hlow => rw [getElem_firsts, hbelow j hlow]
    · next hhigh => rw [getElem_firsts, habove j (Nat.le_of_not_lt hhigh) hj]

/-! ## §2. Moving down in place. -/

variable [Inhabited α] {n : Nat}

theorem get_set (v : Vector α n) {i : Nat} (hi : i < n) (x : α) (j : Nat) :
    (v.set! i x)[j]! = if j = i then x else v[j]! := by
  by_cases hj : j < n
  · rw [getElem!_pos (v.set! i x) j hj, getElem!_pos v j hj, Vector.getElem_set!]
    simp only [eq_comm]
  · have hne : j ≠ i := by omega
    rw [if_neg hne, getElem!_neg (v.set! i x) j hj, getElem!_neg v j hj]

/-- `for (j = k; j < k + m; j++) v[j] = v[j + 1]`. -/
def shiftDown (v : Vector α n) (k : Nat) : Nat → Vector α n
  | 0 => v
  | m + 1 => (shiftDown v k m).set! (k + m) (shiftDown v k m)[k + m + 1]!

theorem get_shiftDown (v : Vector α n) {k m : Nat} (hroom : k + m ≤ n) (j : Nat) :
    (shiftDown v k m)[j]! = if k ≤ j ∧ j < k + m then v[j + 1]! else v[j]! := by
  induction m generalizing j with
  | zero =>
      have hnone : ¬(k ≤ j ∧ j < k + 0) := by omega
      rw [if_neg hnone]
      rfl
  | succ m ih =>
      have hroom' : k + m ≤ n := by omega
      have hin : k + m < n := by omega
      unfold shiftDown
      rw [get_set _ hin, ih hroom', ih hroom']
      -- the cell above the one just written has not been written yet
      have habove : ¬(k ≤ k + m + 1 ∧ k + m + 1 < k + m) := by omega
      rw [if_neg habove]
      by_cases hj : j = k + m
      · subst hj
        have hmoved : k ≤ k + m ∧ k + m < k + (m + 1) := by omega
        rw [if_pos rfl, if_pos hmoved]
      · have hsame : (k ≤ j ∧ j < k + m) ↔ (k ≤ j ∧ j < k + (m + 1)) := by omega
        rw [if_neg hj]
        simp only [hsame]

end SplitFlap.Slots
