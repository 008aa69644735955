/-
  SplitFlap.Lib.BitFlips — frames that lose one bit on the way.

  A frame is a list of bytes.  `OneBit` is the same frame with exactly one bit
  of one byte turned; a byte and its complement, sent behind each other, do
  not survive one such bit.
-/
import Mathlib.Data.Fintype.Basic

namespace SplitFlap.BitFlips

/-- The mask of one bit of a byte. -/
def bit (k : Fin 8) : UInt8 := 1 <<< (UInt8.ofNat k.val)

/-- One bit of one byte is turned. -/
inductive OneBit : List UInt8 → List UInt8 → Prop where
  | here (b : UInt8) (k : Fin 8) (rest : List UInt8) : OneBit (b :: rest) ((b ^^^ bit k) :: rest)
  | there (b : UInt8) {rest rest' : List UInt8} (h : OneBit rest rest') :
      OneBit (b :: rest) (b :: rest')

/-- A frame that arrives with at most one bit changed. -/
def AtMostOneBit (sent got : List UInt8) : Prop := got = sent ∨ OneBit sent got

theorem OneBit.length {sent got : List UInt8} (h : OneBit sent got) :
    got.length = sent.length := by
  induction h with
  | here b k rest => rfl
  | there b _ ih => rw [List.length_cons, List.length_cons, ih]

theorem OneBit.of_nil {got : List UInt8} (h : OneBit [] got) : False := nomatch h

theorem bit_ne_zero (k : Fin 8) : bit k ≠ 0 := by
  revert k
  decide

theorem xor_cancel (a b : UInt8) : a ^^^ (a ^^^ b) = b := by
  rw [← UInt8.xor_assoc, UInt8.xor_self, UInt8.zero_xor]

theorem flip_ne (b : UInt8) (k : Fin 8) : b ^^^ bit k ≠ b := by
  intro h
  have hzero : b ^^^ (b ^^^ bit k) = b ^^^ b := congrArg (b ^^^ ·) h
  rw [xor_cancel, UInt8.xor_self] at hzero
  exact bit_ne_zero k hzero

theorem not_injective {a b : UInt8} (h : ~~~a = ~~~b) : a = b := by
  have hnot : ~~~(~~~a) = ~~~(~~~b) := congrArg (~~~·) h
  rwa [UInt8.not_not, UInt8.not_not] at hnot

/-! ## What arrives. -/

/-- The bit was turned in the first byte, or that one is as it was sent. -/
theorem AtMostOneBit.cases_cons {b : UInt8} {rest got : List UInt8}
    (h : AtMostOneBit (b :: rest) got) :
    (∃ k, got = (b ^^^ bit k) :: rest) ∨
      ∃ rest', got = b :: rest' ∧ AtMostOneBit rest rest' := by
  obtain hsame | hbit := h
  · exact .inr ⟨rest, hsame, .inl rfl⟩
  · cases hbit with
    | here b k rest => exact .inl ⟨k, rfl⟩
    | there b hrest => exact .inr ⟨_, rfl, .inr hrest⟩

theorem AtMostOneBit.length {sent got : List UInt8} (h : AtMostOneBit sent got) :
    got.length = sent.length := by
  obtain hsame | hbit := h
  · rw [hsame]
  · exact hbit.length

/-- The first byte, once it is known not to be the one that was turned. -/
theorem AtMostOneBit.tail {b : UInt8} {rest rest' : List UInt8}
    (h : AtMostOneBit (b :: rest) (b :: rest')) : AtMostOneBit rest rest' := by
  obtain ⟨k, hk⟩ | ⟨rest'', hgot, hrest⟩ := h.cases_cons
  · exact absurd (List.cons.inj hk).1.symm (flip_ne b k)
  · exact (List.cons.inj hgot).2 ▸ hrest

/-- With the first byte turned the others are as they were sent. -/
theorem AtMostOneBit.of_head_ne {b c : UInt8} {rest rest' : List UInt8}
    (h : AtMostOneBit (b :: rest) (c :: rest')) (hne : c ≠ b) :
    rest' = rest ∧ ∃ k, c = b ^^^ bit k := by
  obtain ⟨k, hk⟩ | ⟨rest'', hgot, hrest⟩ := h.cases_cons
  · exact ⟨(List.cons.inj hk).2, k, (List.cons.inj hk).1⟩
  · exact absurd (List.cons.inj hgot).1 hne

/-! ## Bytes behind their complements. -/

/-- A byte and its complement that still agree are the ones sent. -/
theorem AtMostOneBit.pair_kept {v a : UInt8} {rest rest' : List UInt8}
    (h : AtMostOneBit (v :: ~~~v :: rest) (a :: ~~~a :: rest')) : a = v := by
  by_contra hne
  obtain ⟨hrest, -⟩ := h.of_head_ne hne
  exact hne (not_injective (List.cons.inj hrest).1)

/-- So are two bytes with their two complements behind them. -/
theorem AtMostOneBit.quad_kept {b0 b1 a0 a1 : UInt8} {rest rest' : List UInt8}
    (h : AtMostOneBit (b0 :: b1 :: ~~~b0 :: ~~~b1 :: rest)
      (a0 :: a1 :: ~~~a0 :: ~~~a1 :: rest')) : a0 = b0 ∧ a1 = b1 := by
  have hfirst : a0 = b0 := by
    by_contra hne
    obtain ⟨hrest, -⟩ := h.of_head_ne hne
    exact hne (not_injective (List.cons.inj (List.cons.inj hrest).2).1)
  subst hfirst
  refine ⟨rfl, ?_⟩
  by_contra hne
  obtain ⟨hrest, -⟩ := h.tail.of_head_ne hne
  exact hne (not_injective (List.cons.inj (List.cons.inj hrest).2).1)

end SplitFlap.BitFlips
