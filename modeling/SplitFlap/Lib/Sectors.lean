/-
  SplitFlap.Lib.Sectors — lengths in whole sectors.

  A sector is `s` bytes. `roundUp` is the whole sectors a length needs, `roundDown` those
  it fills.  For a sector of `2 ^ k` bytes a machine masks the low bits off instead
  (`and_high`), and what it masks is the same while the addition stays inside the word.
-/
import Mathlib.Algebra.Order.Ring.Nat
import Mathlib.Data.Nat.Bitwise

namespace SplitFlap.Sectors

def roundDown (s n : Nat) : Nat := n / s * s

def roundUp (s n : Nat) : Nat := (n + s - 1) / s * s

variable {s n : Nat}

theorem roundDown_le (s n : Nat) : roundDown s n ≤ n := Nat.div_mul_le_self n s

theorem le_roundUp (hs : 0 < s) (n : Nat) : n ≤ roundUp s n := by
  have hdiv := Nat.div_add_mod (n + s - 1) s
  have hmod := Nat.mod_lt (n + s - 1) hs
  have hcomm : s * ((n + s - 1) / s) = roundUp s n := Nat.mul_comm _ _
  omega

/-- The sectors below `roundUp s n` are those that hold one of the first `n` bytes. -/
theorem sector_iff (hs : 0 < s) (i : Nat) : i * s < n ↔ (i + 1) * s ≤ roundUp s n := by
  have hwhole : (i + 1) * s ≤ roundUp s n ↔ i + 1 ≤ (n + s - 1) / s :=
    Nat.mul_le_mul_right_iff hs
  rw [hwhole, Nat.le_div_iff_mul_le hs, Nat.succ_mul]
  omega

/-- The mask of all bits from `k` on. -/
theorem and_high {k w : Nat} (hk : k ≤ w) {x : Nat} (hx : x < 2 ^ w) :
    x &&& (2 ^ w - 2 ^ k) = roundDown (2 ^ k) x := by
  have hmask : 2 ^ w - 2 ^ k = (2 ^ (w - k) - 1) * 2 ^ k := by
    rw [Nat.sub_mul, Nat.one_mul, ← Nat.pow_add, Nat.sub_add_cancel hk]
  apply Nat.eq_of_testBit_eq
  intro i
  rw [hmask, Nat.testBit_and, Nat.testBit_mul_two_pow, roundDown, Nat.testBit_mul_two_pow,
    Nat.testBit_div_two_pow, Nat.testBit_two_pow_sub_one]
  by_cases hi : k ≤ i
  · rw [Nat.sub_add_cancel hi]
    by_cases htop : i - k < w - k
    · simp [hi, htop]
    · -- a bit beyond the word is clear
      have hbig : x < 2 ^ i := Nat.lt_of_lt_of_le hx (Nat.pow_le_pow_right Nat.two_pos (by omega))
      simp [Nat.testBit_lt_two_pow hbig]
  · simp [hi]

theorem toNat_and_high (x : UInt32) {k : Nat} (hk : k ≤ 32) {mask : UInt32}
    (hmask : mask.toNat = 2 ^ 32 - 2 ^ k) : (x &&& mask).toNat = roundDown (2 ^ k) x.toNat := by
  rw [UInt32.toNat_and, hmask, and_high hk x.toNat_lt]

end SplitFlap.Sectors
