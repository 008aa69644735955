/-
  SplitFlap.Lib.Clock — a clock of 32 bits that goes round.

  Time is a `Nat`; a board reads it in 32 bits (`reading`).  A difference of two
  readings is the time between them, less whole rounds of the clock (`elapsed`), so a
  wait judged by it never ends early.  A deadline is compared by the sign of a
  difference (`reached`): that never ends early either, and ends in time for who looks
  within half a round.
-/
import Mathlib.Algebra.Group.Nat.Defs
import Mathlib.Data.Nat.Basic

namespace SplitFlap.Clock

def reading (t : Nat) : UInt32 := UInt32.ofNat t

/-- `(int32_t)(now - t) >= 0`. -/
def reached (now t : UInt32) : Bool := (now - t).toNat < 2 ^ 31

@[simp] theorem reading_toNat (t : Nat) : (reading t).toNat = t % 2 ^ 32 := UInt32.toNat_ofNat'

theorem reading_add (t : Nat) (d : UInt32) : reading t + d = reading (t + d.toNat) := by
  apply UInt32.toNat_inj.mp
  rw [UInt32.toNat_add, reading_toNat, reading_toNat]
  omega

/-- The time between, less whole rounds. -/
theorem elapsed {s t : Nat} (h : s ≤ t) :
    (reading t - reading s).toNat = (t - s) % 2 ^ 32 := by
  rw [UInt32.toNat_sub, reading_toNat, reading_toNat]
  omega

theorem elapsed_le {s t : Nat} (h : s ≤ t) : (reading t - reading s).toNat ≤ t - s := by
  rw [elapsed h]
  exact Nat.mod_le _ _

theorem elapsed_near {s t : Nat} (h : s ≤ t) (hround : t < s + 2 ^ 32) :
    (reading t - reading s).toNat = t - s := by
  rw [elapsed h]
  omega

/-- A wait that is over has lasted. -/
theorem waited {s t : Nat} (h : s ≤ t) {d : UInt32} (hd : d ≤ reading t - reading s) :
    s + d.toNat ≤ t := by
  have hle : d.toNat ≤ (reading t - reading s).toNat := UInt32.le_iff_toNat_le.mp hd
  have hreal := elapsed_le h
  omega

/-- A deadline that is reached has passed. -/
theorem reached_passed {s t : Nat} (h : s ≤ t) {d : UInt32} (hd : d.toNat ≤ 2 ^ 31)
    (hreached : reached (reading t) (reading s + d) = true) : s + d.toNat ≤ t := by
  unfold reached at hreached
  rw [decide_eq_true_eq, reading_add, UInt32.toNat_sub, reading_toNat, reading_toNat] at hreached
  omega

/-- A deadline that has passed, not half a round ago, is reached. -/
theorem reached_of_passed {s t : Nat} {d : UInt32} (hpassed : s + d.toNat ≤ t)
    (hnear : t < s + d.toNat + 2 ^ 31) : reached (reading t) (reading s + d) = true := by
  unfold reached
  rw [decide_eq_true_eq, reading_add, UInt32.toNat_sub, reading_toNat, reading_toNat]
  omega

/-- A deadline that has passed is reached in every other half round from there on. -/
theorem reached_iff_of_passed {s t : Nat} {d : UInt32} (hpassed : s + d.toNat ≤ t) :
    reached (reading t) (reading s + d) = true ↔ (t - (s + d.toNat)) % 2 ^ 32 < 2 ^ 31 := by
  unfold reached
  rw [decide_eq_true_eq, reading_add, elapsed hpassed]

end SplitFlap.Clock
