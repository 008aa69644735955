/-
  SplitFlap.Lib.Varint — numbers in base 128, low digit first.

  Each byte carries seven bits; all but the last have the top bit set.  The
  encoding is the minimal one: no digit more than the number needs.
-/
import Mathlib.Data.Nat.Bitwise
import Mathlib.Tactic.Ring

namespace SplitFlap

/-- The minimal varint of `n`. -/
def varint (n : Nat) : List UInt8 :=
  if n < 128 then [UInt8.ofNat n] else UInt8.ofNat (n % 128 + 128) :: varint (n / 128)

theorem varint_of_lt {n : Nat} (h : n < 128) : varint n = [UInt8.ofNat n] := by
  rw [varint, if_pos h]

theorem varint_of_ge {n : Nat} (h : ¬ n < 128) :
    varint n = UInt8.ofNat (n % 128 + 128) :: varint (n / 128) := by
  rw [varint, if_neg h]

theorem varint_length_pos (n : Nat) : 0 < (varint n).length := by
  by_cases h : n < 128
  · rw [varint_of_lt h]; exact Nat.one_pos
  · rw [varint_of_ge h]; exact Nat.succ_pos _

theorem varint_length_le {n k : Nat} (h : n < 128 ^ (k + 1)) : (varint n).length ≤ k + 1 := by
  induction k generalizing n with
  | zero => rw [varint_of_lt (by omega)]; exact Nat.le_refl 1
  | succ k ih =>
      by_cases hn : n < 128
      · rw [varint_of_lt hn]; exact Nat.succ_le_succ (Nat.zero_le _)
      · have hdiv : n / 128 < 128 ^ (k + 1) := by
          rw [Nat.div_lt_iff_lt_mul (by omega)]
          calc n < 128 ^ (k + 1 + 1) := h
            _ = 128 ^ (k + 1) * 128 := by ring
        rw [varint_of_ge hn, List.length_cons]
        exact Nat.succ_le_succ (ih hdiv)

/-! ## The seven bits and the mark of one byte. -/

theorem digit_bits (b : UInt8) : (b &&& 0x7F).toNat = b.toNat % 128 := by
  rw [UInt8.toNat_and]
  exact Nat.and_two_pow_sub_one_eq_mod b.toNat 7

theorem digit_last_iff (b : UInt8) : b &&& 0x80 = 0 ↔ b.toNat < 128 := by
  have hlt : b.toNat < 256 := b.toNat_lt
  have htop : (b &&& 0x80).toNat = (b.toNat.testBit 7).toNat * 128 := by
    rw [UInt8.toNat_and]
    exact Nat.and_two_pow b.toNat 7
  rw [← UInt8.toNat_inj, htop, Nat.testBit_eq_decide_div_mod_eq]
  by_cases h : b.toNat < 128
  · have hdigit : b.toNat / 128 % 2 = 0 := by omega
    simp [hdigit, h]
  · have hdigit : b.toNat / 128 % 2 = 1 := by omega
    simp [hdigit, h]

end SplitFlap
