/-
  SplitFlap.Lib.Ranks — places of which only some count.

  `rank p c` is how many places below `c` satisfy `p`.  Along the places that
  do, the ranks are 0, 1, 2, …: a text laid out on them in order is read back
  by reading them in order (`read_ranks`).
-/
import Mathlib.Data.List.GetD
import Mathlib.Data.List.Range

namespace SplitFlap.Ranks

/-- The places below `c` that satisfy `p`. -/
def rank (p : Nat → Bool) (c : Nat) : Nat := (List.range c).countP p

variable {p q : Nat → Bool}

@[simp] theorem rank_zero (p : Nat → Bool) : rank p 0 = 0 := rfl

theorem rank_succ (p : Nat → Bool) (c : Nat) :
    rank p (c + 1) = rank p c + if p c then 1 else 0 := by
  unfold rank
  rw [List.range_succ, List.countP_append, List.countP_singleton]

theorem rank_congr {c : Nat} (h : ∀ k < c, p k = q k) : rank p c = rank q c := by
  apply List.countP_congr
  intro k hk
  rw [h k (List.mem_range.mp hk)]

theorem rank_mono (p : Nat → Bool) {a b : Nat} (h : a ≤ b) : rank p a ≤ rank p b := by
  induction b, h using Nat.le_induction with
  | base => exact Nat.le_refl _
  | succ b _ ih =>
      rw [rank_succ]
      exact Nat.le_trans ih (Nat.le_add_right _ _)

/-- Along places that all satisfy `p`, the rank grows with every one. -/
theorem rank_add {a w : Nat} (h : ∀ k < w, p (a + k) = true) : rank p (a + w) = rank p a + w := by
  induction w with
  | zero => rfl
  | succ w ih =>
      rw [← Nat.add_assoc, rank_succ, h w (Nat.lt_succ_self _),
        ih fun k hk => h k (Nat.lt_succ_of_lt hk)]
      rfl

theorem rank_lt {c n : Nat} (hc : p c = true) (hn : c < n) : rank p c < rank p n := by
  have hsucc : rank p (c + 1) = rank p c + 1 := by
    rw [rank_succ, hc]
    rfl
  have hmono : rank p (c + 1) ≤ rank p n := rank_mono p hn
  omega

theorem rank_or {n : Nat} (h : ∀ k < n, p k = true → q k = false) :
    rank (fun k => p k || q k) n = rank p n + rank q n := by
  induction n with
  | zero => rfl
  | succ n ih =>
      rw [rank_succ, rank_succ, rank_succ, ih fun k hk => h k (Nat.lt_succ_of_lt hk)]
      cases hp : p n with
      | true =>
          rw [h n (Nat.lt_succ_self _) hp]
          simp only [Bool.or_false, if_true, Bool.false_eq_true, if_false]
          omega
      | false =>
          simp only [Bool.false_or, Bool.false_eq_true, if_false]
          omega

/-- Only the places below `k` count. -/
theorem rank_below (p : Nat → Bool) {k n : Nat} (h : k ≤ n) :
    rank (fun c => p c && c < k) n = rank p k := by
  induction n, h using Nat.le_induction with
  | base =>
      apply rank_congr
      intro c hc
      simp [hc]
  | succ n hn ih =>
      rw [rank_succ, ih, if_neg (by simp [Nat.not_lt_of_le hn])]
      rfl

/-- Beyond the last place that satisfies `p` the rank stays. -/
theorem rank_beyond {m n : Nat} (h : ∀ c, m ≤ c → p c = false) (hn : m ≤ n) :
    rank p n = rank p m := by
  induction n, hn using Nat.le_induction with
  | base => rfl
  | succ n hn ih =>
      rw [rank_succ, ih, h n hn]
      rfl

theorem rank_false (n : Nat) : rank (fun _ => false) n = 0 :=
  rank_beyond (fun _ _ => rfl) (Nat.zero_le n)

/-- A span of `w` places. -/
theorem rank_span {a w n : Nat} (h : a + w ≤ n) :
    rank (fun c => a ≤ c && c < a + w) n = w := by
  have hbefore : rank (fun c => a ≤ c && c < a + w) a = 0 := by
    rw [← rank_false a]
    apply rank_congr
    intro c hc
    simp [Nat.not_le_of_lt hc]
  rw [rank_beyond (m := a + w) (fun c hc => by simp [Nat.not_lt_of_le hc]) h, rank_add, hbefore,
    Nat.zero_add]
  intro k hk
  simp [hk]

/-- The ranks of the places that satisfy `p`, in order. -/
theorem ranks_filter (p : Nat → Bool) (n : Nat) :
    ((List.range n).filter p).map (rank p) = List.range (rank p n) := by
  induction n with
  | zero => rfl
  | succ n ih =>
      rw [List.range_succ, List.filter_append, List.map_append, ih, rank_succ]
      cases hp : p n with
      | true =>
          rw [List.filter_cons_of_pos hp]
          simp only [List.filter_nil, List.map_cons, List.map_nil, if_true]
          rw [List.range_succ]
      | false =>
          rw [List.filter_cons_of_neg (by simp [hp])]
          simp

/-- **A text laid out by ranks is read back.** -/
theorem read_ranks {α : Type*} {text : List α} {n : Nat} (htext : text.length = rank p n)
    (other : α) :
    ((List.range n).filter p).map (fun c => text.getD (rank p c) other) = text := by
  have hmap : ((List.range n).filter p).map (fun c => text.getD (rank p c) other) =
      (((List.range n).filter p).map (rank p)).map fun k => text.getD k other := by
    rw [List.map_map]
    rfl
  rw [hmap, ranks_filter, ← htext]
  apply List.ext_getElem
  · simp
  · intro k hk _
    have hlt : k < text.length := by simpa using hk
    rw [List.getElem_map, List.getElem_range, List.getD_eq_getElem _ _ hlt]

end SplitFlap.Ranks
