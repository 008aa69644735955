/-
  SplitFlap.Lib.InsertionSort — insertion sort in place.

  The array is a list of fixed length.  `shift` is the inner loop: from the right, what is
  larger than the new value moves up by one, and the value goes where that stops.
-/
import Mathlib.Data.List.Induction

namespace SplitFlap.InsertionSort

variable {α : Type*} [LE α] [LT α] [DecidableLT α]

/-! ## §1. The loops. -/

/-- The inner loop, with `j + 1` for the source's `j`: 0 is -1. -/
def shift (v : α) : Nat → List α → List α
  | 0, xs => xs.set 0 v
  | j + 1, xs =>
      if xs[j]?.any (v < ·) then shift v j (xs.set (j + 1) (xs[j]?.getD v))
      else xs.set (j + 1) v

/-- One turn of the outer loop. -/
def insertAt (xs : List α) (i : Nat) : List α := (xs[i]?.map fun v => shift v i xs).getD xs

def sortInPlace (xs : List α) : List α := (List.range' 1 (xs.length - 1)).foldl insertAt xs

/-! ## §2. What they do. -/

variable [Std.IsLinearOrder α] [Std.LawfulOrderLT α]

/-- What the inner loop leaves: `front` and `v`, in order when `front` was. -/
structure Inserted (v : α) (front out : List α) : Prop where
  perm : out.Perm (front ++ [v])
  sorted : front.Pairwise (· ≤ ·) → out.Pairwise (· ≤ ·)

theorem shift_inserted (v : α) (front : List α) (x : α) (back : List α) :
    ∃ out, shift v front.length (front ++ x :: back) = out ++ back ∧ Inserted v front out := by
  induction front using List.reverseRecOn generalizing x back with
  | nil => exact ⟨[v], rfl, List.Perm.refl _, fun _ => List.pairwise_singleton _ v⟩
  | append_singleton front y ih =>
      have hy : ((front ++ [y]) ++ x :: back)[front.length]? = some y := by simp
      have hset : ∀ w, ((front ++ [y]) ++ x :: back).set (front.length + 1) w =
          (front ++ [y]) ++ w :: back := by
        intro w
        rw [List.set_append_right _ _ (by simp)]
        simp
      rw [List.length_append, List.length_singleton, shift, hy, hset, hset, Option.any_some,
        Option.getD_some]
      by_cases hlarger : v < y
      · -- y moves up, and the value goes somewhere before it
        rw [if_pos (decide_eq_true hlarger), List.append_assoc, List.singleton_append]
        obtain ⟨out, hshift, hout⟩ := ih y (y :: back)
        refine ⟨out ++ [y], ?_, ?_, ?_⟩
        · rw [hshift, List.append_assoc, List.singleton_append]
        · have hswap : ((front ++ [v]) ++ [y]).Perm ((front ++ [y]) ++ [v]) := by
            rw [List.append_assoc, List.append_assoc]
            exact List.Perm.append_left front (List.Perm.swap y v [])
          exact (hout.perm.append_right [y]).trans hswap
        · intro hsorted
          rw [List.pairwise_append] at hsorted ⊢
          refine ⟨hout.sorted hsorted.1, List.pairwise_singleton _ y, ?_⟩
          intro z hz w hw
          rw [List.mem_singleton.mp hw]
          obtain hfront | hv := List.mem_append.mp (hout.perm.mem_iff.mp hz)
          · exact hsorted.2.2 z hfront y List.mem_cons_self
          · rw [List.mem_singleton.mp hv]
            exact Std.le_of_lt hlarger
      · rw [if_neg (by simpa using hlarger)]
        refine ⟨front ++ [y] ++ [v], by simp, List.Perm.refl _, ?_⟩
        intro hsorted
        rw [List.pairwise_append]
        refine ⟨hsorted, List.pairwise_singleton _ v, ?_⟩
        intro z hz w hw
        rw [List.mem_singleton.mp hw]
        have hyv : y ≤ v := Std.not_lt.mp hlarger
        obtain hfront | hlast := List.mem_append.mp hz
        · have hzy := (List.pairwise_append.mp hsorted).2.2 z hfront y List.mem_cons_self
          exact Std.le_trans hzy hyv
        · rw [List.mem_singleton.mp hlast]
          exact hyv

theorem insert_rest (front rest : List α) (hsorted : front.Pairwise (· ≤ ·)) :
    ((List.range' front.length rest.length).foldl insertAt (front ++ rest)).Perm
        (front ++ rest) ∧
      ((List.range' front.length rest.length).foldl insertAt (front ++ rest)).Pairwise
        (· ≤ ·) := by
  induction rest generalizing front with
  | nil =>
      rw [List.append_nil]
      exact ⟨List.Perm.refl _, hsorted⟩
  | cons x rest ih =>
      obtain ⟨out, hshift, hout⟩ := shift_inserted x front x rest
      have hx : (front ++ x :: rest)[front.length]? = some x := by simp
      have hturn : insertAt (front ++ x :: rest) front.length = out ++ rest := by
        rw [insertAt, hx, Option.map_some, Option.getD_some, hshift]
      have hlen : out.length = front.length + 1 := by
        rw [hout.perm.length_eq, List.length_append, List.length_singleton]
      have hmore := ih out (hout.sorted hsorted)
      rw [hlen] at hmore
      rw [List.length_cons, List.range'_succ, List.foldl_cons, hturn]
      have hback : (out ++ rest).Perm (front ++ x :: rest) := by
        rw [List.append_cons]
        exact hout.perm.append_right rest
      exact ⟨hmore.1.trans hback, hmore.2⟩

theorem sortInPlace_perm (xs : List α) : (sortInPlace xs).Perm xs := by
  cases xs with
  | nil => exact List.Perm.refl _
  | cons x xs => exact (insert_rest [x] xs (List.pairwise_singleton _ x)).1

theorem sortInPlace_sorted (xs : List α) : (sortInPlace xs).Pairwise (· ≤ ·) := by
  cases xs with
  | nil => exact List.Pairwise.nil
  | cons x xs => exact (insert_rest [x] xs (List.pairwise_singleton _ x)).2

end SplitFlap.InsertionSort
