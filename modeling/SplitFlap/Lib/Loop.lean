/-
  SplitFlap.Lib.Loop — a loop that goes round until it leaves.

  A turn hands over the state of the next one or leaves with a result.  The loop
  is given a number of turns it may take; that it needs no more is shown with a
  measure that every turn lowers.
-/
namespace SplitFlap.Loop

/-- `turn` again and again, for at most so many turns. -/
def loop {σ ρ : Type} (turn : σ → σ ⊕ ρ) : Nat → σ → Option ρ
  | 0, _ => none
  | turns + 1, s =>
      match turn s with
      | .inl s' => loop turn turns s'
      | .inr r => some r

section

variable {σ ρ : Type} {turn : σ → σ ⊕ ρ}

theorem loop_again {s s' : σ} (h : turn s = .inl s') (turns : Nat) :
    loop turn (turns + 1) s = loop turn turns s' := by
  simp only [loop, h]

theorem loop_leaves {s : σ} {r : ρ} (h : turn s = .inr r) (turns : Nat) :
    loop turn (turns + 1) s = some r := by
  simp only [loop, h]

/-- The invariant says how much is left to do; a turn that goes on leaves less,
and one that leaves has what was wanted. -/
theorem loop_spec {I : Nat → σ → Prop} {Q : ρ → Prop}
    (hnext : ∀ n s s', I n s → turn s = .inl s' → ∃ m < n, I m s')
    (hleave : ∀ n s r, I n s → turn s = .inr r → Q r)
    {turns n : Nat} {s : σ} (hs : I n s) (hturns : n < turns) :
    ∃ r, loop turn turns s = some r ∧ Q r := by
  induction turns generalizing n s with
  | zero => omega
  | succ turns ih =>
      cases hturn : turn s with
      | inl s' =>
          obtain ⟨m, hm, hs'⟩ := hnext n s s' hs hturn
          rw [loop_again hturn]
          exact ih hs' (by omega)
      | inr r => exact ⟨r, loop_leaves hturn turns, hleave n s r hs hturn⟩

end

end SplitFlap.Loop
