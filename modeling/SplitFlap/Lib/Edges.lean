/-
  SplitFlap.Lib.Edges — what changed in a row of readings.

  A reading may be missing (it is left out of the row) and the watch may start over
  (`none`); the edges are the readings that differ from the one before.
-/
import Mathlib.Data.List.Basic

namespace SplitFlap.Edges

variable {α : Type*} [DecidableEq α]

/-- The edges of a row of readings, `last` the reading before and `fresh` what a new watch begins
with. -/
def edges (fresh : α) : α → List (Option α) → List α
  | _, [] => []
  | _, none :: rest => edges fresh fresh rest
  | last, some v :: rest => if v = last then edges fresh last rest else v :: edges fresh v rest

/-- The reading the next one is compared with. -/
def settled (fresh : α) : α → List (Option α) → α
  | last, [] => last
  | _, none :: rest => settled fresh fresh rest
  | _, some v :: rest => settled fresh v rest

/-- One reading, as an edge or none. -/
def edge (last v : α) : List α := if v = last then [] else [v]

theorem edges_some (fresh last v : α) (rest : List (Option α)) :
    edges fresh last (some v :: rest) = edge last v ++ edges fresh v rest := by
  unfold edge
  rw [edges]
  split
  · next hsame => rw [hsame, List.nil_append]
  · rfl

theorem edges_append (fresh last : α) (xs ys : List (Option α)) :
    edges fresh last (xs ++ ys) =
      edges fresh last xs ++ edges fresh (settled fresh last xs) ys := by
  induction xs generalizing last with
  | nil => rfl
  | cons x xs ih =>
      cases x with
      | none => exact ih fresh
      | some v =>
          rw [List.cons_append, edges_some, edges_some, ih v, List.append_assoc]
          rfl

omit [DecidableEq α] in
theorem settled_append (fresh last : α) (xs ys : List (Option α)) :
    settled fresh last (xs ++ ys) = settled fresh (settled fresh last xs) ys := by
  induction xs generalizing last with
  | nil => rfl
  | cons x xs ih =>
      cases x with
      | none => exact ih fresh
      | some v => exact ih v

end SplitFlap.Edges
