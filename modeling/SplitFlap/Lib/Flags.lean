/-
  SplitFlap.Lib.Flags — words of 32 flags, and flags that are followed over time.

  A word is read flag by flag (`has`), and the bitwise operations are the Boolean ones on
  each flag; a type whose values are numbered below 32 names the flags (`Flagged`, `holds`).
  A flag that is followed keeps what was known of it where a look does not see
  it (`follow`); the changes it goes through alternate (`Alternates`).
-/
import Mathlib.Data.List.Nodup
import Mathlib.Data.Nat.Bitwise

namespace SplitFlap.Flags

/-! ## §1. Words. -/

def flag (n : Nat) : UInt32 := 1 <<< UInt32.ofNat n

def has (m : UInt32) (n : Nat) : Bool := m &&& flag n != 0

theorem flag_toNat {n : Nat} (hn : n < 32) : (flag n).toNat = 2 ^ n := by
  have hpow : 2 ^ n < 2 ^ 32 := Nat.pow_lt_pow_right (by decide) hn
  have hsmall : n % 2 ^ 32 % 32 = n := by omega
  unfold flag
  rw [UInt32.toNat_shiftLeft, UInt32.toNat_ofNat', hsmall]
  show 1 <<< n % 2 ^ 32 = 2 ^ n
  rw [Nat.one_shiftLeft, Nat.mod_eq_of_lt hpow]

theorem has_eq {n : Nat} (hn : n < 32) (m : UInt32) : has m n = m.toNat.testBit n := by
  have hand : (m &&& flag n).toNat = (m.toNat.testBit n).toNat * 2 ^ n := by
    rw [UInt32.toNat_and, flag_toNat hn, Nat.and_two_pow]
  unfold has
  cases hbit : m.toNat.testBit n with
  | false =>
      rw [hbit, Bool.toNat_false, Nat.zero_mul] at hand
      have hzero : m &&& flag n = 0 := UInt32.toNat_inj.mp hand
      rw [hzero]
      rfl
  | true =>
      rw [bne_iff_ne]
      intro hzero
      rw [hbit, hzero, Bool.toNat_true, Nat.one_mul] at hand
      exact absurd hand.symm (Nat.two_pow_pos n).ne'

theorem has_zero (n : Nat) : has 0 n = false := by
  unfold has
  rw [UInt32.zero_and]
  rfl

theorem has_or (a b : UInt32) {n : Nat} (hn : n < 32) :
    has (a ||| b) n = (has a n || has b n) := by
  rw [has_eq hn, has_eq hn, has_eq hn, UInt32.toNat_or, Nat.testBit_or]

theorem has_and (a b : UInt32) {n : Nat} (hn : n < 32) :
    has (a &&& b) n = (has a n && has b n) := by
  rw [has_eq hn, has_eq hn, has_eq hn, UInt32.toNat_and, Nat.testBit_and]

theorem has_not (a : UInt32) {n : Nat} (hn : n < 32) : has (~~~a) n = !has a n := by
  have hbits : UInt32.size - 1 - a.toNat = 2 ^ 32 - (a.toNat + 1) := by
    show 2 ^ 32 - 1 - a.toNat = _
    omega
  rw [has_eq hn, has_eq hn, UInt32.toNat_not, hbits, Nat.testBit_two_pow_sub_succ a.toNat_lt,
    decide_eq_true hn, Bool.true_and]

theorem has_flag {n k : Nat} (hn : n < 32) (hk : k < 32) :
    has (flag k) n = decide (k = n) := by
  rw [has_eq hn, flag_toNat hk, Nat.testBit_two_pow]

/-! ## §2. Named flags. -/

class Flagged (α : Type*) where
  number : α → Nat
  number_lt : ∀ r, number r < 32
  number_injective : Function.Injective number

section Named

variable {α : Type*} [Flagged α]

def bit (r : α) : UInt32 := flag (Flagged.number r)

def holds (m : UInt32) (r : α) : Bool := has m (Flagged.number r)

@[simp] theorem holds_zero (r : α) : holds 0 r = false := has_zero _

@[simp] theorem holds_or (a b : UInt32) (r : α) : holds (a ||| b) r = (holds a r || holds b r) :=
  has_or a b (Flagged.number_lt r)

@[simp] theorem holds_and (a b : UInt32) (r : α) : holds (a &&& b) r = (holds a r && holds b r) :=
  has_and a b (Flagged.number_lt r)

@[simp] theorem holds_not (a : UInt32) (r : α) : holds (~~~a) r = !holds a r :=
  has_not a (Flagged.number_lt r)

/-- A flag is added where `c` holds. -/
def addIf (c : Bool) (r : α) (all : UInt32) : UInt32 := if c then all ||| bit r else all

/-- Some flags are added where `c` holds. -/
def addAllIf (c : Bool) (rs : List α) (all : UInt32) : UInt32 :=
  if c then rs.foldl (fun all r => all ||| bit r) all else all

variable [DecidableEq α]

@[simp] theorem holds_bit (q r : α) : holds (bit q) r = decide (q = r) := by
  unfold holds bit
  rw [has_flag (Flagged.number_lt r) (Flagged.number_lt q), decide_eq_decide,
    Flagged.number_injective.eq_iff]

@[simp] theorem holds_addIf (c : Bool) (q r : α) (all : UInt32) :
    holds (addIf c q all) r = (holds all r || c && decide (q = r)) := by
  unfold addIf
  cases c with
  | true => simp
  | false => simp

@[simp] theorem holds_addAllIf (c : Bool) (rs : List α) (r : α) (all : UInt32) :
    holds (addAllIf c rs all) r = (holds all r || c && decide (r ∈ rs)) := by
  unfold addAllIf
  cases c with
  | false => simp
  | true =>
      rw [if_pos rfl, Bool.true_and]
      induction rs generalizing all with
      | nil => simp
      | cons q rs ih =>
          have hmem : decide (r ∈ q :: rs) = (decide (q = r) || decide (r ∈ rs)) := by
            rw [← Bool.decide_or, decide_eq_decide, List.mem_cons, eq_comm]
          rw [List.foldl_cons, ih, holds_or, holds_bit, Bool.or_assoc, hmem]

end Named

/-! ## §3. Flags over time. -/

/-- What is known after a look: what it shows where it sees, else what was known. -/
def follow (prior now seen : Bool) : Bool := (now && seen) || (prior && !seen)

/-- The entry a change leaves. -/
def edge (prior state : Bool) : List Bool := if prior = state then [] else [state]

/-- Each entry is the opposite of the one before it, and the first of `on`. -/
def Alternates : Bool → List Bool → Prop
  | _, [] => True
  | on, e :: es => e = !on ∧ Alternates e es

/-- One change more, before entries that alternate from where it leads. -/
theorem Alternates.edge {state : Bool} {es : List Bool} (h : Alternates state es) (on : Bool) :
    Alternates on (Flags.edge on state ++ es) := by
  unfold Flags.edge
  by_cases hsame : on = state
  · rw [if_pos hsame, List.nil_append, hsame]
    exact h
  · rw [if_neg hsame]
    exact ⟨Bool.eq_not.mpr (Ne.symm hsame), h⟩

/-- Two flags for the two ways a change can go. -/
theorem edge_eq (prior state : Bool) :
    (if state && !prior then [true] else []) ++ (if prior && !state then [false] else []) =
      edge prior state := by
  cases prior <;> cases state <;> rfl

/-! ## §4. Records of many flags. -/

/-- Where one item alone contributes, the whole is what it contributes. -/
theorem flatMap_only {α β : Type*} {l : List α} {f : α → List β} {q : α} (hnodup : l.Nodup)
    (hmem : q ∈ l) (honly : ∀ x ∈ l, x ≠ q → f x = []) : l.flatMap f = f q := by
  induction l with
  | nil => exact absurd hmem List.not_mem_nil
  | cons x l ih =>
      rw [List.nodup_cons] at hnodup
      rw [List.flatMap_cons]
      by_cases hx : x = q
      · have hrest : l.flatMap f = [] := by
          rw [List.flatMap_eq_nil_iff]
          intro y hy
          exact honly y (List.mem_cons_of_mem x hy) fun hyq => hnodup.1 (hx ▸ hyq ▸ hy)
        rw [hrest, List.append_nil, hx]
      · have hq : q ∈ l := (List.mem_cons.mp hmem).resolve_left (Ne.symm hx)
        rw [honly x List.mem_cons_self hx, List.nil_append]
        exact ih hnodup.2 hq fun y hy => honly y (List.mem_cons_of_mem x hy)

end SplitFlap.Flags
