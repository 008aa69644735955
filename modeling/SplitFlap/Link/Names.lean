/-
  SplitFlap.Link.Names — names of boards, and numbers as text.

  A board's id and the hostname of its place obey one rule, that of a DNS label;
  each header has its own copy of it.  Numbers are written in decimal.
-/
import SplitFlap.Link.Wire

namespace SplitFlap

/-! ## §1. Characters. -/

/-- `'0'` to `'9'`. -/
def isDigit (c : UInt8) : Bool := 48 ≤ c && c ≤ 57

/-- A character of a label: `[a-z0-9-]`. -/
def isLabelChar (c : UInt8) : Bool := (97 ≤ c && c ≤ 122) || isDigit c || c = 45

/-- One to `most` label characters, without a hyphen at either end. -/
def labelSafe (most : Nat) (name : CStr) : Bool :=
  if name.length < 1 || name.length > most then false
  else if name.head? = some 45 || name.getLast? = some 45 then false
  else name.all isLabelChar

abbrev DEVICE_NAME_MAX_LEN : Nat := 24

def isValidDeviceName (name : CStr) : Bool := labelSafe DEVICE_NAME_MAX_LEN name

theorem labelSafe_iff {most : Nat} {name : CStr} :
    labelSafe most name = true ↔ 1 ≤ name.length ∧ name.length ≤ most ∧ name.head? ≠ some 45 ∧
      name.getLast? ≠ some 45 ∧ ∀ c ∈ name, isLabelChar c = true := by
  unfold labelSafe
  split
  · next hlength =>
      simp only [Bool.or_eq_true, decide_eq_true_eq] at hlength
      constructor
      · intro hno
        exact Bool.noConfusion hno
      · rintro ⟨hleast, hmost, _⟩
        omega
  · next hlength =>
      simp only [Bool.or_eq_true, decide_eq_true_eq, not_or, Nat.not_lt] at hlength
      split
      · next hends =>
          simp only [Bool.or_eq_true, decide_eq_true_eq] at hends
          constructor
          · intro hno
            exact Bool.noConfusion hno
          · rintro ⟨_, _, hhead, hlast, _⟩
            exact absurd hends (not_or.mpr ⟨hhead, hlast⟩)
      · next hends =>
          simp only [Bool.or_eq_true, decide_eq_true_eq, not_or] at hends
          rw [List.all_eq_true]
          exact ⟨fun hall => ⟨hlength.1, hlength.2, hends.1, hends.2, hall⟩, fun h => h.2.2.2.2⟩

/-! ## §2. Decimal numbers. -/

/-- `%d` of a number that is not negative. -/
def decimal (n : Nat) : CStr := (Nat.toDigits 10 n).map fun c => c.toNat.toUInt8

/-- The value of a row of digits, read on from `value`. -/
def digitsValue (value : Nat) (digits : CStr) : Nat :=
  digits.foldl (fun value c => value * 10 + (c.toNat - 48)) value

theorem isDigit_iff (c : UInt8) : isDigit c = true ↔ 48 ≤ c.toNat ∧ c.toNat ≤ 57 := by
  unfold isDigit
  rw [Bool.and_eq_true, decide_eq_true_eq, decide_eq_true_eq, UInt8.le_iff_toNat_le,
    UInt8.le_iff_toNat_le]
  rfl

theorem digitChar_byte {c : Char} (h : c.isDigit = true) :
    c.toNat.toUInt8.toNat = c.toNat ∧ isDigit c.toNat.toUInt8 = true := by
  have hbounds : 48 ≤ c.toNat ∧ c.toNat ≤ 57 := by
    simp only [Char.isDigit, Bool.and_eq_true, decide_eq_true_eq] at h
    exact ⟨UInt32.le_iff_toNat_le.mp h.1, UInt32.le_iff_toNat_le.mp h.2⟩
  have hbyte : c.toNat.toUInt8.toNat = c.toNat := by
    rw [Nat.toUInt8_eq, UInt8.toNat_ofNat']
    omega
  rw [isDigit_iff, hbyte]
  exact ⟨rfl, hbounds⟩

/-- A number in decimal is digits. -/
theorem decimal_digits (n : Nat) : ∀ c ∈ decimal n, isDigit c = true := by
  intro c hc
  obtain ⟨d, hd, rfl⟩ := List.mem_map.mp hc
  exact (digitChar_byte (Nat.isDigit_of_mem_toDigits (by decide) (by decide) hd)).2

theorem decimal_ne_nil (n : Nat) : decimal n ≠ [] := by
  intro h
  exact Nat.toDigits_ne_nil (List.map_eq_nil_iff.mp h)

/-- Writing a number and reading it back. -/
theorem digitsValue_decimal (n : Nat) : digitsValue 0 (decimal n) = n := by
  have hread : ∀ (digits : List Char), (∀ c ∈ digits, c.isDigit = true) → ∀ value,
      digitsValue value (digits.map fun c => c.toNat.toUInt8) =
        Nat.ofDigitChars 10 digits value := by
    intro digits
    induction digits with
    | nil => exact fun _ _ => rfl
    | cons d digits ih =>
        intro hall value
        have hd := (digitChar_byte (hall d List.mem_cons_self)).1
        show digitsValue (value * 10 + (d.toNat.toUInt8.toNat - 48)) _ = _
        rw [hd, ih fun c hc => hall c (List.mem_cons_of_mem _ hc), Nat.ofDigitChars_cons,
          Nat.mul_comm]
        rfl
  rw [decimal, hread _ fun c hc => Nat.isDigit_of_mem_toDigits (by decide) (by decide) hc]
  exact Nat.ofDigitChars_toDigits (by decide) (by decide)

theorem decimal_inj {n k : Nat} (h : decimal n = decimal k) : n = k := by
  rw [← digitsValue_decimal n, h, digitsValue_decimal]

/-- No number but zero begins with a zero. -/
theorem decimal_head {n : Nat} (h : 0 < n) : (decimal n).head? ≠ some 48 := by
  induction n using Nat.strongRecOn with
  | ind n ih =>
      unfold decimal
      by_cases hsmall : n < 10
      · rw [Nat.toDigits_of_lt_base hsmall, List.map_cons, List.head?_cons]
        intro hzero
        have hbyte := digitChar_byte (c := n.digitChar) (by
          rw [Nat.isDigit_digitChar]
          exact decide_eq_true hsmall)
        have hchar : n.digitChar.toNat = 48 := by
          rw [← hbyte.1, Option.some.inj hzero]
          rfl
        have hdigit : n.digitChar = '0' := Char.ext (UInt32.toNat_inj.mp hchar)
        have hnone := Nat.digitChar_eq_zero.mp hdigit
        omega
      · have hmore := ih (n / 10) (by omega) (by omega)
        have hne : (Nat.toDigits 10 (n / 10)).map (fun c => c.toNat.toUInt8) ≠ [] :=
          decimal_ne_nil (n / 10)
        rw [Nat.toDigits_of_base_le (by decide) (by omega), List.map_append,
          List.head?_append_of_ne_nil _ hne]
        exact hmore

/-- A number below 1000 has at most three digits. -/
theorem decimal_length {n : Nat} (h : n < 1000) : (decimal n).length ≤ 3 := by
  rw [decimal, List.length_map]
  exact (Nat.length_toDigits_le_iff (by decide) (by decide)).mpr h

end SplitFlap
