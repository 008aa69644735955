/-
  SplitFlap.Lib.Bytes — facts about every byte.

  `∀ b : UInt8` has no decision procedure of its own; `∀ n < 256` has.
-/
import Mathlib.Data.Nat.Basic

namespace SplitFlap

/-- What holds of the first 256 numbers as bytes holds of every byte. -/
theorem forall_byte {P : UInt8 → Prop} (h : ∀ n, n < 256 → P (UInt8.ofNat n)) (b : UInt8) :
    P b := by
  have hb := h b.toNat b.toNat_lt
  rw [UInt8.ofNat_toNat] at hb
  exact hb

end SplitFlap
