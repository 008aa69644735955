/-
  SplitFlap.Lib.Columns — a line read column by column.

  A line is given by what stands in each column, if anything does.  Reading a
  stretch of columns gives the characters from left to right; stretches follow
  one another, and one that holds nothing, or exactly a text, is read as such.
-/
import Mathlib.Data.List.Range

namespace SplitFlap.Columns

variable {α : Type*}

/-- What stands in the `n` columns from `lo` on. -/
def readColumns (cell : Nat → Option α) (lo n : Nat) : List α :=
  (List.range' lo n).filterMap cell

variable {cell : Nat → Option α} {lo n : Nat}

theorem readColumns_add (cell : Nat → Option α) (lo m n : Nat) :
    readColumns cell lo (m + n) = readColumns cell lo m ++ readColumns cell (lo + m) n := by
  unfold readColumns
  rw [← List.filterMap_append, ← List.range'_append_1]

theorem readColumns_blank (h : ∀ c, lo ≤ c → c < lo + n → cell c = none) :
    readColumns cell lo n = [] := by
  unfold readColumns
  rw [List.filterMap_eq_nil_iff]
  intro c hc
  obtain ⟨hfrom, hto⟩ := List.mem_range'_1.mp hc
  exact h c hfrom hto

theorem readColumns_text {text : List α} (h : ∀ k < text.length, cell (lo + k) = text[k]?) :
    readColumns cell lo text.length = text := by
  induction text generalizing lo with
  | nil => rfl
  | cons a text ih =>
      have hfirst : cell lo = some a := h 0 (Nat.zero_lt_succ _)
      have hrest : readColumns cell (lo + 1) text.length = text := by
        apply ih
        intro k hk
        have hk := h (k + 1) (Nat.succ_lt_succ hk)
        rwa [← Nat.add_assoc, Nat.add_right_comm] at hk
      unfold readColumns at hrest ⊢
      rw [List.length_cons, List.range'_succ, List.filterMap_cons_some hfirst, hrest]

theorem readColumns_congr {cell' : Nat → Option α} (h : ∀ c, cell c = cell' c) (lo n : Nat) :
    readColumns cell lo n = readColumns cell' lo n := by
  rw [show cell = cell' from funext h]

theorem mem_readColumns {a : α} :
    a ∈ readColumns cell lo n ↔ ∃ c, (lo ≤ c ∧ c < lo + n) ∧ cell c = some a := by
  unfold readColumns
  simp only [List.mem_filterMap, List.mem_range'_1]

/-- One line that holds no more than another, in each column, and reads the same is the same. -/
theorem filterMap_eq_of_le {cell cell' : Nat → Option α} {columns : List Nat}
    (hle : ∀ c ∈ columns, cell c = none ∨ cell c = cell' c)
    (h : columns.filterMap cell = columns.filterMap cell') :
    ∀ c ∈ columns, cell c = cell' c := by
  -- no more is read of the one than of the other
  have hlength : ∀ cs ⊆ columns, (cs.filterMap cell).length ≤ (cs.filterMap cell').length := by
    intro cs hcs
    induction cs with
    | nil => exact Nat.le_refl _
    | cons c cs ih =>
        have ih := ih fun d hd => hcs (List.mem_cons_of_mem c hd)
        obtain hnone | hsame := hle c (hcs List.mem_cons_self)
        · rw [List.filterMap_cons_none hnone]
          cases hcell : cell' c with
          | none => rwa [List.filterMap_cons_none hcell]
          | some a =>
              rw [List.filterMap_cons_some hcell, List.length_cons]
              exact Nat.le_succ_of_le ih
        · rw [List.filterMap_cons, List.filterMap_cons, hsame]
          cases cell' c with
          | none => exact ih
          | some a => exact Nat.succ_le_succ ih
  induction columns with
  | nil => exact fun c hc => nomatch hc
  | cons d columns ih =>
      have hrest := hlength columns fun c hc => List.mem_cons_of_mem d hc
      have hhead : cell d = cell' d := by
        obtain hnone | hsame := hle d List.mem_cons_self
        · cases hcell : cell' d with
          | none => exact hnone
          | some a =>
              rw [List.filterMap_cons_none hnone, List.filterMap_cons_some hcell] at h
              rw [h, List.length_cons] at hrest
              exact absurd hrest (Nat.not_succ_le_self _)
        · exact hsame
      have htail : columns.filterMap cell = columns.filterMap cell' := by
        rw [List.filterMap_cons, List.filterMap_cons, hhead] at h
        cases hcell : cell' d with
        | none =>
            rw [hcell] at h
            exact h
        | some a =>
            rw [hcell] at h
            exact (List.cons.inj h).2
      intro c hc
      obtain rfl | hc := List.mem_cons.mp hc
      · exact hhead
      · refine ih (fun e he => hle e (List.mem_cons_of_mem d he)) htail (fun cs hcs => ?_) c hc
        exact hlength cs fun e he => List.mem_cons_of_mem d (hcs he)

theorem readColumns_eq_of_le {cell cell' : Nat → Option α}
    (hle : ∀ c, cell c = none ∨ cell c = cell' c)
    (h : readColumns cell 0 n = readColumns cell' 0 n) {c : Nat} (hc : c < n) :
    cell c = cell' c := by
  refine filterMap_eq_of_le (fun c _ => hle c) h c ?_
  rw [List.mem_range'_1]
  omega

end SplitFlap.Columns
