/-
  SplitFlap.Lib.Latest — what a bounded store keeps of a history.

  A ring of cells keeps the newest entries one by one (`Window`).  A store with a
  budget keeps the newest entries whose sizes fit it together (`fitting`), which is
  the longest end of the history that does (`fitting_newest`).
-/
import Mathlib.Data.Nat.ModEq
import Mathlib.Data.List.Infix
import Mathlib.Logic.Function.Basic

namespace SplitFlap.Latest

variable {α : Type*}

/-! ## §1. A ring of cells. -/

/-- Each of the newest `size` entries stands in the cell of its own position. -/
def Window (size : Nat) (cells : Nat → α) (all : List α) : Prop :=
  ∀ k (hk : k < all.length), all.length ≤ k + size → cells (k % size) = all[k]

theorem window_nil (size : Nat) (cells : Nat → α) : Window size cells [] := by
  intro k hk
  exact absurd hk (Nat.not_lt_zero k)

/-- Two positions less than a ring apart have cells of their own. -/
theorem mod_ne_of_near {size k n : Nat} (hk : k < n) (hn : n < k + size) :
    k % size ≠ n % size := by
  intro heq
  have hdvd : size ∣ n - k := (Nat.modEq_iff_dvd' (Nat.le_of_lt hk)).mp heq
  have hle : size ≤ n - k := Nat.le_of_dvd (by omega) hdvd
  omega

/-- The cell after the one of position `n` is that of position `n + 1`. -/
theorem next_cell {size : Nat} (hsize : 0 < size) (n : Nat) :
    (if n % size + 1 ≥ size then 0 else n % size + 1) = (n + 1) % size := by
  have hmod : n % size < size := Nat.mod_lt n hsize
  rw [← Nat.mod_add_mod n size 1]
  split
  · next hlast =>
      have hend : n % size + 1 = size := by omega
      rw [hend, Nat.mod_self]
  · next hinside => rw [Nat.mod_eq_of_lt (Nat.not_le.mp hinside)]

theorem Window.push {size : Nat} {cells : Nat → α} {all : List α} (h : Window size cells all)
    (x : α) : Window size (Function.update cells (all.length % size) x) (all ++ [x]) := by
  intro k hk hnew
  rw [List.length_append, List.length_singleton] at hk hnew
  rcases Nat.lt_succ_iff_lt_or_eq.mp hk with hold | rfl
  · have hcell : k % size ≠ all.length % size := mod_ne_of_near hold (by omega)
    rw [Function.update_of_ne hcell, List.getElem_append_left hold]
    exact h k hold (by omega)
  · rw [Function.update_self, List.getElem_append_right (Nat.le_refl _)]
    simp

/-! ## §2. A budget. -/

variable (cost : α → Nat)

/-- What a stretch of entries costs together. -/
def total (entries : List α) : Nat := (entries.map cost).sum

@[simp] theorem total_nil : total cost [] = 0 := rfl

@[simp] theorem total_cons (x : α) (xs : List α) : total cost (x :: xs) = cost x + total cost xs := by
  simp [total]

@[simp] theorem total_append (xs ys : List α) :
    total cost (xs ++ ys) = total cost xs + total cost ys := by
  simp [total]

/-- The history without its oldest entries, as few as make the rest fit. -/
def fitting (cap : Nat) : List α → List α
  | [] => []
  | x :: xs => if total cost (x :: xs) ≤ cap then x :: xs else fitting cap xs

/-- `kept` is the longest end of the history that fits. -/
structure IsNewest (cap : Nat) (all kept : List α) : Prop where
  suffix : kept <:+ all
  fits : total cost kept ≤ cap
  longest : ∀ other, other <:+ all → total cost other ≤ cap → other <:+ kept

variable {cost}

theorem fitting_of_fits {cap : Nat} {all : List α} (h : total cost all ≤ cap) :
    fitting cost cap all = all := by
  cases all with
  | nil => rfl
  | cons x xs => rw [fitting, if_pos h]

theorem fitting_cons_of_over {cap : Nat} {x : α} {xs : List α}
    (h : cap < total cost (x :: xs)) : fitting cost cap (x :: xs) = fitting cost cap xs := by
  rw [fitting, if_neg (Nat.not_le.mpr h)]

theorem fitting_newest (cap : Nat) (all : List α) :
    IsNewest cost cap all (fitting cost cap all) := by
  induction all with
  | nil => exact ⟨List.suffix_rfl, Nat.zero_le _, fun other hother _ => hother⟩
  | cons x xs ih =>
      by_cases hfits : total cost (x :: xs) ≤ cap
      · rw [fitting_of_fits hfits]
        exact ⟨List.suffix_rfl, hfits, fun other hother _ => hother⟩
      · rw [fitting_cons_of_over (Nat.not_le.mp hfits)]
        refine ⟨ih.suffix.trans (List.suffix_cons x xs), ih.fits, ?_⟩
        intro other hother hcost
        rcases List.suffix_cons_iff.mp hother with rfl | hrest
        · exact absurd hcost hfits
        · exact ih.longest other hrest hcost

/-- An entry that fits alone is kept, and the older ones share what it leaves. -/
theorem fitting_snoc {cap : Nat} {x : α} (hx : cost x ≤ cap) (all : List α) :
    fitting cost cap (all ++ [x]) = fitting cost (cap - cost x) all ++ [x] := by
  induction all with
  | nil => exact fitting_of_fits (by simpa using hx)
  | cons y ys ih =>
      by_cases hfits : total cost (y :: ys) ≤ cap - cost x
      · rw [fitting_of_fits hfits]
        apply fitting_of_fits
        rw [total_append, total_cons cost x, total_nil]
        omega
      · rw [fitting_cons_of_over (Nat.not_le.mp hfits), List.cons_append, ← ih]
        apply fitting_cons_of_over
        rw [← List.cons_append, total_append, total_cons cost x, total_nil]
        omega

/-- What did not fit before does not fit with one more behind it. -/
theorem fitting_fitting {small cap : Nat} (hle : small ≤ cap) (all : List α) :
    fitting cost small (fitting cost cap all) = fitting cost small all := by
  induction all with
  | nil => rfl
  | cons y ys ih =>
      by_cases hfits : total cost (y :: ys) ≤ cap
      · rw [fitting_of_fits hfits]
      · rw [fitting_cons_of_over (Nat.not_le.mp hfits), ih, fitting_cons_of_over (by omega)]

end SplitFlap.Latest
