/-
  SplitFlap.Lib.Numerals — the numerals of the index types.

  The tables of the program have eight or sixteen places, and each place is
  written as a numeral of `Fin`.
-/
import Mathlib.Algebra.GroupWithZero.Nat

namespace SplitFlap

instance neZeroEight : NeZero 8 := ⟨by decide⟩

instance neZeroSixteen : NeZero 16 := ⟨by decide⟩

end SplitFlap
