/-
  SplitFlap.Lib.Marks — evenly spaced marks on a ring.

  A ring of `s * n` points has `n` marks, `s` points apart, the first one at
  point 0.  A point that is less than half of `s` away from a mark has that
  mark for its nearest, and a reading that rounds to the next mark names it.
-/
import Mathlib.Algebra.Order.Ring.Abs
import Mathlib.Data.Int.ModEq
import Mathlib.Tactic.Ring
import Mathlib.Tactic.Linarith

namespace SplitFlap

namespace Marks

/-- How far apart two points of a ring of `m` points are, the shorter way round. -/
def ringDist (m : Nat) (x y : Int) : Nat := min ((x - y) % m).toNat ((y - x) % m).toNat

/-- Mark `k` is nearer to `x` than every other mark. -/
def Nearest (s n : Nat) (x : Int) (k : Nat) : Prop :=
  ∀ j < n, j ≠ k → ringDist (s * n) x (s * k) < ringDist (s * n) x (s * j)

/-- The mark a reading of `x` rounds to. -/
def rounded (s n : Nat) (x : Int) : Nat := ((x % (s * n : Nat)).toNat + s / 2) / s % n

/-- `x` lies `d` points past mark `k`. -/
def Past (s n : Nat) (x : Int) (k : Nat) (d : Int) : Prop := ∃ t : Int, x = s * k + d + s * n * t

variable {s n k : Nat} {x d : Int}

/-! ## §1. Distances. -/

theorem ringDist_comm (m : Nat) (x y : Int) : ringDist m x y = ringDist m y x := by
  unfold ringDist
  exact Nat.min_comm ..

theorem emod_le_self {m : Nat} {d : Int} (hd : 0 ≤ d) : d % m ≤ d := by
  rw [Int.emod_def]
  have := mul_nonneg (Int.natCast_nonneg m) (Int.ediv_nonneg hd (Int.natCast_nonneg m))
  omega

/-- A way round the ring bounds the distance. -/
theorem ringDist_le_of_eq {m : Nat} (hm : 0 < m) {y d t : Int} (h : x = y + d + m * t) :
    ringDist m x y ≤ d.natAbs := by
  unfold ringDist
  have hm' : (0 : Int) < m := by exact_mod_cast hm
  have hxy : (x - y) % m = d % m := by
    rw [h, show y + d + m * t - y = d + m * t by ring, Int.add_mul_emod_self_left]
  have hyx : (y - x) % m = (-d) % m := by
    rw [h, show y - (y + d + m * t) = -d + m * (-t) by ring, Int.add_mul_emod_self_left]
  rw [hxy, hyx]
  -- one of the two ways is no longer than `d`, by the sign of `d`
  rcases Int.le_total 0 d with hd | hd
  · have hle : d % m ≤ d := emod_le_self hd
    have hge : 0 ≤ d % m := Int.emod_nonneg d (by omega)
    exact le_trans (Nat.min_le_left ..) (by omega)
  · have hle : (-d) % m ≤ -d := emod_le_self (by omega)
    have hge : 0 ≤ (-d) % m := Int.emod_nonneg (-d) (by omega)
    exact le_trans (Nat.min_le_right ..) (by omega)

/-- Whatever number of turns one goes, the way to a point is at least as long
as the bound that every way has. -/
theorem le_ringDist {m : Nat} (hm : 0 < m) {y : Int} {b : Nat}
    (h : ∀ t : Int, (b : Int) ≤ |x - y + m * t|) : b ≤ ringDist m x y := by
  unfold ringDist
  have hm' : (m : Int) ≠ 0 := by omega
  have way (a : Int) (ha : ∀ t : Int, (b : Int) ≤ |a + m * t|) : b ≤ (a % m).toNat := by
    have hr : 0 ≤ a % m := Int.emod_nonneg a hm'
    have := ha (-(a / m))
    rw [show a + m * (-(a / m)) = a % m by rw [Int.emod_def]; ring, abs_of_nonneg hr] at this
    omega
  refine le_min (way _ h) (way _ fun t => ?_)
  have := h (-t)
  rwa [show x - y + m * (-t) = -(y - x + m * t) by ring, abs_neg] at this

/-! ## §2. The nearest mark. -/

/-- Less than half the spacing past a mark, on either side of it. -/
theorem nearest_of_past (hk : k < n) (hx : Past s n x k d) (hd : 2 * |d| < s) :
    Nearest s n x k := by
  obtain ⟨t, rfl⟩ := hx
  have hs : 0 < s := by
    have := abs_nonneg d
    omega
  have hm : 0 < s * n := Nat.mul_pos hs (by omega)
  intro j hj hjk
  have hnear : ringDist (s * n) (s * k + d + s * n * t) (s * k) ≤ d.natAbs :=
    ringDist_le_of_eq hm (t := t) (by push_cast; ring)
  have hfar : s - d.natAbs ≤ ringDist (s * n) (s * k + d + s * n * t) (s * j) := by
    refine le_ringDist hm fun u => ?_
    -- the two marks are a whole number of spacings apart, and not none
    set q : Int := k - j + n * (t + u) with hq
    have hne : q ≠ 0 := by
      intro h0
      have hdvd : (n : Int) ∣ (k - j : Int) := ⟨-(t + u), by rw [hq] at h0; linarith⟩
      have habs := Int.eq_zero_of_abs_lt_dvd hdvd (by rw [abs_lt]; omega)
      omega
    have heq : (s * k + d + s * n * t - s * j + (s * n : Nat) * u : Int) = s * q + d := by
      rw [hq]
      push_cast
      ring
    have hq1 : (s : Int) ≤ |s * q| := by
      rw [abs_mul, abs_of_nonneg (by omega : (0 : Int) ≤ s)]
      exact le_mul_of_one_le_right (by omega) (Int.one_le_abs hne)
    rw [heq]
    have htri : |(s : Int) * q| ≤ |s * q + d| + |d| := by
      have := abs_add_le (s * q + d) (-d)
      rwa [show (s : Int) * q + d + -d = s * q by ring, abs_neg] at this
    have := Int.natCast_natAbs d
    omega
  have := Int.natCast_natAbs d
  omega

/-- The rounding reading names the mark it is close to. -/
theorem rounded_of_past (hs : 0 < s) (hk : k < n) (hx : Past s n x k d) (hlow : -(s / 2 : Nat) ≤ d)
    (hhigh : d + (s / 2 : Nat) < s) : rounded s n x = k := by
  obtain ⟨t, hx⟩ := hx
  unfold rounded
  have hm : ((s * n : Nat) : Int) ≠ 0 := by
    have := Nat.mul_pos hs (by omega : 0 < n)
    omega
  have hr : 0 ≤ x % (s * n : Nat) := Int.emod_nonneg x hm
  -- what is left of `x` on the ring, in spacings
  obtain ⟨q, hq⟩ : ∃ q : Int, x % (s * n : Nat) = s * (k + n * q) + d :=
    ⟨t - x / (s * n : Nat), by rw [Int.emod_def]; nth_rewrite 1 [hx]; push_cast; ring⟩
  have hdiv : (x % (s * n : Nat) + (s / 2 : Nat)) / s = k + n * q := by
    rw [hq, show (s * (k + n * q) + d + (s / 2 : Nat) : Int) = d + (s / 2 : Nat) + s * (k + n * q)
      by ring, Int.add_mul_ediv_left _ _ (by omega), Int.ediv_eq_zero_of_lt (by omega) hhigh]
    omega
  have hmod : ((x % (s * n : Nat) + (s / 2 : Nat)) / s) % n = k := by
    rw [hdiv, Int.add_mul_emod_self_left, Int.emod_eq_of_lt (by omega) (by omega)]
  have hcast : (((x % (s * n : Nat)).toNat + s / 2 : Nat) : Int) =
      x % (s * n : Nat) + (s / 2 : Nat) := by
    rw [Int.natCast_add, Int.toNat_of_nonneg hr]
  have : ((((x % (s * n : Nat)).toNat + s / 2) / s % n : Nat) : Int) = k := by
    rw [Int.natCast_mod, Int.natCast_div, hcast]
    exact hmod
  exact_mod_cast this

end Marks

end SplitFlap
