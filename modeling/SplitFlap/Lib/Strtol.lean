/-
  SplitFlap.Lib.Strtol — a number at the front of a text.

  `strtol` of C: blanks, a sign, with base 0 a prefix that says the base, and
  then digits for as long as there are any, the number clamped to a 32-bit
  `long`.  A text of decimal digits that does not begin with a zero is read as
  their value (`strtol_digits`).
-/
import Mathlib.Data.List.Basic

namespace SplitFlap.Strtol

abbrev LONG_MAX : Int := 2147483647
abbrev LONG_MIN : Int := -2147483648

def isSpace (c : UInt8) : Bool := c = 32 || (9 ≤ c && c ≤ 13)

/-- The value of a digit in any base up to 36; what is no digit has none. -/
def digitOf (c : UInt8) : Nat :=
  if 48 ≤ c && c ≤ 57 then c.toNat - 48
  else if 97 ≤ c && c ≤ 122 then c.toNat - 87
  else if 65 ≤ c && c ≤ 90 then c.toNat - 55
  else 36

/-- The digits at the front, read on from `value`, and what follows them. -/
def readDigits (base : Nat) : (value : Nat) → List UInt8 → Nat × List UInt8
  | value, [] => (value, [])
  | value, c :: rest =>
      if digitOf c < base then readDigits base (value * base + digitOf c) rest
      else (value, c :: rest)

/-- `0x` before a hexadecimal digit. -/
def hexPrefix : List UInt8 → Bool
  | 48 :: x :: d :: _ => (x = 120 || x = 88) && digitOf d < 16
  | _ => false

/-- The base a text is read in, and its digits. -/
def afterPrefix (base : Nat) (text : List UInt8) : Nat × List UInt8 :=
  if (base = 0 || base = 16) && hexPrefix text then (16, text.drop 2)
  else if base = 0 then (if text.head? = some 48 then 8 else 10, text)
  else (base, text)

def clampLong (value : Int) : Int := max LONG_MIN (min LONG_MAX value)

/-- The number at the front of a text and what follows it; nothing when there is
no number. -/
def strtol (base : Nat) (text : List UInt8) : Option (Int × List UInt8) :=
  let text := text.dropWhile isSpace
  let negative := text.head? = some 45
  let text := if negative || text.head? = some 43 then text.tail else text
  let digits := afterPrefix base text
  let read := readDigits digits.1 0 digits.2
  if read.2.length = digits.2.length then none
  else some (clampLong (if negative then -read.1 else read.1), read.2)

/-! ## §1. A text of digits. -/

theorem readDigits_all {base : Nat} {text : List UInt8} (h : ∀ c ∈ text, digitOf c < base) :
    ∀ value, readDigits base value text =
      (text.foldl (fun value c => value * base + digitOf c) value, []) := by
  induction text with
  | nil => exact fun _ => rfl
  | cons c text ih =>
      intro value
      rw [readDigits, if_pos (h c List.mem_cons_self),
        ih fun d hd => h d (List.mem_cons_of_mem _ hd)]
      rfl

/-- **Decimal digits are read as their value**, in base 10 and in base 0. -/
theorem strtol_digits {base : Nat} {text : List UInt8} (hbase : base = 0 ∨ base = 10)
    (hdigits : ∀ c ∈ text, 48 ≤ c ∧ c ≤ 57) (hne : text ≠ []) (hzero : text.head? ≠ some 48) :
    strtol base text =
      some (clampLong (text.foldl (fun value c => value * 10 + (c.toNat - 48)) 0 : Nat), []) := by
  obtain ⟨first, rest, rfl⟩ := List.exists_cons_of_ne_nil hne
  have hfirst := hdigits first List.mem_cons_self
  have hblank : isSpace first = false := by
    unfold isSpace
    simp only [UInt8.le_iff_toNat_le, UInt8.toNat_ofNat, Bool.or_eq_false_iff,
      Bool.and_eq_false_iff, decide_eq_false_iff_not] at hfirst ⊢
    refine ⟨?_, Or.inr ?_⟩
    · rintro rfl
      exact absurd hfirst.1 (by decide)
    · omega
  have hminus : first ≠ 45 := by
    rintro rfl
    exact absurd hfirst.1 (by decide)
  have hplus : first ≠ 43 := by
    rintro rfl
    exact absurd hfirst.1 (by decide)
  have hvalue : ∀ c ∈ first :: rest, digitOf c = c.toNat - 48 := by
    intro c hc
    unfold digitOf
    rw [if_pos]
    simp [hdigits c hc]
  have hsmall : ∀ c ∈ first :: rest, digitOf c < 10 := by
    intro c hc
    have hc' := (hdigits c hc).2
    rw [UInt8.le_iff_toNat_le] at hc'
    have hnine : (57 : UInt8).toNat = 57 := rfl
    rw [hvalue c hc]
    omega
  have hhex : hexPrefix (first :: rest) = false := by
    have hfirst0 : first ≠ 48 := by
      rintro rfl
      exact hzero rfl
    unfold hexPrefix
    split
    · next heq =>
        injection heq with heq
        exact absurd heq hfirst0
    · rfl
  have hprefix : afterPrefix base (first :: rest) = (10, first :: rest) := by
    unfold afterPrefix
    rw [hhex, Bool.and_false, if_neg Bool.false_ne_true]
    rcases hbase with rfl | rfl
    · rw [if_pos rfl, if_neg hzero]
    · rw [if_neg (by decide)]
  have hread : readDigits 10 0 (first :: rest) =
      ((first :: rest).foldl (fun value c => value * 10 + (c.toNat - 48)) 0, []) := by
    rw [readDigits_all hsmall]
    congr 1
    apply List.foldl_ext
    intro value c hc
    rw [hvalue c hc]
  unfold strtol
  rw [List.dropWhile_cons_of_neg (by simp [hblank])]
  simp only [List.head?_cons, Option.some.injEq, hminus, hplus, decide_false, Bool.or_self,
    Bool.false_eq_true, if_false, hprefix, hread, List.length_nil, List.length_cons]
  rw [if_neg (by omega)]

end SplitFlap.Strtol
