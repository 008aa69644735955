/-
  SplitFlap.Lib.Stretch — what a log holds since its last mark.

  Some events of a log are marks.  `since` is what follows the last of them, and
  a stretch without a mark is the end of some `since` (`since_stretch`), so a
  bound that holds since the last mark at every moment holds of every stretch.
-/
import Mathlib.Data.List.Induction

namespace SplitFlap.Stretch

variable {α : Type*}

/-- What follows the last mark. -/
def since (mark : α → Bool) (log : List α) : List α :=
  log.foldl (fun kept e => if mark e then [] else kept ++ [e]) []

variable {mark : α → Bool}

@[simp] theorem since_nil : since mark [] = [] := rfl

theorem since_snoc (log : List α) (e : α) :
    since mark (log ++ [e]) = if mark e then [] else since mark log ++ [e] := by
  unfold since
  rw [List.foldl_append]
  rfl

theorem since_mark {e : α} (he : mark e = true) (log : List α) :
    since mark (log ++ [e]) = [] := by
  rw [since_snoc, if_pos he]

theorem since_other {e : α} (he : mark e = false) (log : List α) :
    since mark (log ++ [e]) = since mark log ++ [e] := by
  rw [since_snoc, he, if_neg Bool.false_ne_true]

/-- A stretch without a mark only lengthens it. -/
theorem since_stretch (log stretch : List α) (hstretch : ∀ e ∈ stretch, mark e = false) :
    since mark (log ++ stretch) = since mark log ++ stretch := by
  induction stretch generalizing log with
  | nil => rw [List.append_nil, List.append_nil]
  | cons e stretch ih =>
      have hrest : ∀ e' ∈ stretch, mark e' = false := fun e' hmem =>
        hstretch e' (List.mem_cons_of_mem e hmem)
      calc since mark (log ++ e :: stretch)
          = since mark (log ++ [e] ++ stretch) := by simp
        _ = since mark log ++ [e] ++ stretch := by
            rw [ih (log ++ [e]) hrest, since_other (hstretch e List.mem_cons_self)]
        _ = since mark log ++ e :: stretch := by simp

/-- A stretch holds no more of a kind than was counted since the last mark. -/
theorem countP_stretch_le {p : α → Bool} {bound : Nat} {log stretch : List α}
    (hsince : (since mark (log ++ stretch)).countP p ≤ bound)
    (hstretch : ∀ e ∈ stretch, mark e = false) : stretch.countP p ≤ bound := by
  rw [since_stretch log stretch hstretch, List.countP_append] at hsince
  omega

theorem mem_of_mem_since {e : α} {log : List α} (he : e ∈ since mark log) : e ∈ log := by
  induction log using List.reverseRecOn with
  | nil => exact he
  | append_singleton log last ih =>
      rw [since_snoc] at he
      split at he
      · exact (nomatch he)
      · rw [List.mem_append] at he ⊢
        exact he.imp_left ih

end SplitFlap.Stretch
