/-
  SplitFlap.Lib.MaskedXor — buffers that end in a masked XOR of themselves.

  The last byte of a sealed buffer is the XOR of the others, XORed with a
  mask.  Equivalently the XOR of all its bytes is the mask (`sealed_iff`), and
  from there on the checks are sums in a group of characteristic two: one byte
  changed changes the sum, and a constant buffer sums to 0 or to the constant.

  The last part is words as little-endian bytes.
-/
import Mathlib.Data.Nat.Bitwise

namespace SplitFlap.MaskedXor

/-! ## §1. The XOR of a buffer. -/

def xorAll (bytes : List UInt8) : UInt8 := bytes.foldl (· ^^^ ·) 0

theorem foldl_xor (bytes : List UInt8) :
    ∀ x, bytes.foldl (· ^^^ ·) x = x ^^^ xorAll bytes := by
  induction bytes with
  | nil => exact fun x => (UInt8.xor_zero).symm
  | cons b bytes ih =>
      intro x
      show bytes.foldl (· ^^^ ·) (x ^^^ b) = x ^^^ bytes.foldl (· ^^^ ·) (0 ^^^ b)
      rw [ih, ih, UInt8.zero_xor, UInt8.xor_assoc]

@[simp] theorem xorAll_nil : xorAll [] = 0 := rfl

theorem xorAll_cons (b : UInt8) (bytes : List UInt8) :
    xorAll (b :: bytes) = b ^^^ xorAll bytes := by
  show bytes.foldl (· ^^^ ·) (0 ^^^ b) = b ^^^ xorAll bytes
  rw [foldl_xor, UInt8.zero_xor]

theorem xorAll_append (bytes more : List UInt8) :
    xorAll (bytes ++ more) = xorAll bytes ^^^ xorAll more := by
  show (bytes ++ more).foldl (· ^^^ ·) 0 = _
  rw [List.foldl_append, foldl_xor]
  rfl

theorem xorAll_replicate (b : UInt8) (n : Nat) :
    xorAll (List.replicate n b) = if n % 2 = 0 then 0 else b := by
  induction n with
  | zero => rfl
  | succ n ih =>
      rw [List.replicate_succ, xorAll_cons, ih]
      rcases Nat.mod_two_eq_zero_or_one n with h | h
      · rw [if_pos h, if_neg (by omega), UInt8.xor_zero]
      · rw [if_neg (by omega), if_pos (by omega), UInt8.xor_self]

/-- One byte in place of another. -/
theorem xorAll_set {bytes : List UInt8} {i : Nat} (hi : i < bytes.length) (b : UInt8) :
    xorAll (bytes.set i b) = xorAll bytes ^^^ (bytes[i] ^^^ b) := by
  induction bytes generalizing i with
  | nil => exact absurd hi (Nat.not_lt_zero i)
  | cons c bytes ih =>
      cases i with
      | zero =>
          show xorAll (b :: bytes) = xorAll (c :: bytes) ^^^ (c ^^^ b)
          rw [xorAll_cons, xorAll_cons, UInt8.xor_comm c (xorAll bytes), UInt8.xor_assoc,
            ← UInt8.xor_assoc c c b, UInt8.xor_self, UInt8.zero_xor, UInt8.xor_comm]
      | succ i =>
          have hi' : i < bytes.length := Nat.lt_of_succ_lt_succ hi
          show xorAll (c :: bytes.set i b) = xorAll (c :: bytes) ^^^ (bytes[i] ^^^ b)
          rw [xorAll_cons, xorAll_cons, ih hi', UInt8.xor_assoc]

/-! ## §2. Sealed buffers. -/

variable {n : Nat}

/-- The checksum of a buffer whose last byte is its place. -/
def checksum (mask : UInt8) (buf : Vector UInt8 (n + 1)) : UInt8 :=
  xorAll (buf.toList.take n) ^^^ mask

/-- The buffer's last byte is its checksum. -/
def Sealed (mask : UInt8) (buf : Vector UInt8 (n + 1)) : Prop := buf[n] = checksum mask buf

instance (mask : UInt8) (buf : Vector UInt8 (n + 1)) : Decidable (Sealed mask buf) :=
  inferInstanceAs (Decidable (_ = _))

/-- The payload with its checksum behind it. -/
def withChecksum (mask : UInt8) (payload : Vector UInt8 n) : Vector UInt8 (n + 1) :=
  payload.push (xorAll payload.toList ^^^ mask)

/-- **A buffer is sealed when the XOR of all its bytes is the mask.** -/
theorem sealed_iff (mask : UInt8) (buf : Vector UInt8 (n + 1)) :
    Sealed mask buf ↔ xorAll buf.toList = mask := by
  have hsplit : buf.toList = buf.toList.take n ++ [buf[n]] := by
    have hlast : buf.toList.drop n = [buf[n]] := by
      rw [List.drop_eq_getElem_cons (by simp)]
      simp
    rw [← hlast, List.take_append_drop]
  have hsum : xorAll buf.toList = xorAll (buf.toList.take n) ^^^ buf[n] := by
    rw [hsplit, xorAll_append, ← hsplit, xorAll_cons, xorAll_nil, UInt8.xor_zero]
  rw [Sealed, checksum, hsum]
  constructor
  · intro h
    rw [h, ← UInt8.xor_assoc, UInt8.xor_self, UInt8.zero_xor]
  · intro h
    rw [← h, ← UInt8.xor_assoc, UInt8.xor_self, UInt8.zero_xor]

theorem withChecksum_sealed (mask : UInt8) (payload : Vector UInt8 n) : Sealed mask (withChecksum mask payload) := by
  rw [sealed_iff, withChecksum, Vector.toList_push, xorAll_append, xorAll_cons, xorAll_nil, UInt8.xor_zero,
    ← UInt8.xor_assoc, UInt8.xor_self, UInt8.zero_xor]

/-- **One byte changed breaks the seal.** -/
theorem Sealed.changed {mask : UInt8} {buf : Vector UInt8 (n + 1)} (h : Sealed mask buf)
    {i : Nat} (hi : i < n + 1) {b : UInt8} (hb : b ≠ buf[i]) : ¬Sealed mask (buf.set i b) := by
  rw [sealed_iff] at h ⊢
  have hlength : i < buf.toList.length := by
    rw [Vector.length_toList]
    exact hi
  rw [Vector.toList_set, xorAll_set hlength, h]
  intro hsame
  have hzero : buf[i] ^^^ b = 0 := by
    have hcancel := congrArg (mask ^^^ ·) hsame
    simpa [← UInt8.xor_assoc] using hcancel
  exact hb (UInt8.xor_eq_zero_iff.mp hzero).symm

/-- A constant buffer is sealed only by the mask its length makes of it. -/
theorem replicate_sealed_iff (mask b : UInt8) :
    Sealed mask (Vector.replicate (n + 1) b) ↔ (if (n + 1) % 2 = 0 then 0 else b) = mask := by
  rw [sealed_iff, Vector.toList_replicate, xorAll_replicate]

/-- A byte and then padding. -/
theorem padded_sealed_iff (mask b pad : UInt8) :
    Sealed mask ((Vector.replicate (n + 1) pad).set 0 b) ↔
      b ^^^ (if n % 2 = 0 then 0 else pad) = mask := by
  have hlist : ((Vector.replicate (n + 1) pad).set 0 b).toList = b :: List.replicate n pad := by
    rw [Vector.toList_set, Vector.toList_replicate, List.replicate_succ]
    rfl
  rw [sealed_iff, hlist, xorAll_cons, xorAll_replicate]

/-! ## §3. Words as bytes, low byte first. -/

def byte16 (v : UInt16) (i : UInt16) : UInt8 := ((v >>> (8 * i)) &&& 0xFF).toUInt8

def byte32 (v : UInt32) (i : UInt32) : UInt8 := ((v >>> (8 * i)) &&& 0xFF).toUInt8

def word16 (lo hi : UInt8) : UInt16 := lo.toUInt16 ||| (hi.toUInt16 <<< 8)

def word32 (b0 b1 b2 b3 : UInt8) : UInt32 :=
  b0.toUInt32 ||| (b1.toUInt32 <<< 8) ||| (b2.toUInt32 <<< 16) ||| (b3.toUInt32 <<< 24)

theorem or_shiftLeft {a k : Nat} (h : a < 2 ^ k) (b : Nat) : a ||| b <<< k = a + b * 2 ^ k := by
  rw [Nat.or_comm, ← Nat.shiftLeft_add_eq_or_of_lt h, Nat.shiftLeft_eq, Nat.add_comm]

theorem and_255 (n : Nat) : n &&& 255 = n % 256 := Nat.and_two_pow_sub_one_eq_mod n 8

theorem word16_toNat (lo hi : UInt8) : (word16 lo hi).toNat = lo.toNat + hi.toNat * 2 ^ 8 := by
  have hlo := lo.toNat_lt
  have hhi := hi.toNat_lt
  have hshift : (hi.toUInt16 <<< 8).toNat = hi.toNat <<< 8 := by
    simp [UInt16.toNat_shiftLeft, Nat.shiftLeft_eq]
    omega
  rw [word16, UInt16.toNat_or, hshift, UInt8.toNat_toUInt16, or_shiftLeft hlo]

theorem word32_toNat (b0 b1 b2 b3 : UInt8) : (word32 b0 b1 b2 b3).toNat =
    b0.toNat + b1.toNat * 2 ^ 8 + b2.toNat * 2 ^ 16 + b3.toNat * 2 ^ 24 := by
  have h0 := b0.toNat_lt
  have h1 := b1.toNat_lt
  have h2 := b2.toNat_lt
  have h3 := b3.toNat_lt
  have hs1 : (b1.toUInt32 <<< 8).toNat = b1.toNat <<< 8 := by
    simp [UInt32.toNat_shiftLeft, Nat.shiftLeft_eq]
    omega
  have hs2 : (b2.toUInt32 <<< 16).toNat = b2.toNat <<< 16 := by
    simp [UInt32.toNat_shiftLeft, Nat.shiftLeft_eq]
    omega
  have hs3 : (b3.toUInt32 <<< 24).toNat = b3.toNat <<< 24 := by
    simp [UInt32.toNat_shiftLeft, Nat.shiftLeft_eq]
    omega
  have h01 : b0.toNat + b1.toNat * 2 ^ 8 < 2 ^ 16 := by omega
  have h012 : b0.toNat + b1.toNat * 2 ^ 8 + b2.toNat * 2 ^ 16 < 2 ^ 24 := by omega
  rw [word32, UInt32.toNat_or, UInt32.toNat_or, UInt32.toNat_or, hs1, hs2, hs3,
    UInt8.toNat_toUInt32, or_shiftLeft h0, or_shiftLeft h01, or_shiftLeft h012]

@[simp] theorem word16_bytes (v : UInt16) : word16 (byte16 v 0) (byte16 v 1) = v := by
  apply UInt16.toNat_inj.mp
  have hv := v.toNat_lt
  rw [word16_toNat]
  simp [byte16, Nat.shiftRight_eq_div_pow, and_255]
  omega

@[simp] theorem byte16_word16_low (lo hi : UInt8) : byte16 (word16 lo hi) 0 = lo := by
  apply UInt8.toNat_inj.mp
  simp [byte16, word16_toNat, and_255]

@[simp] theorem byte16_word16_high (lo hi : UInt8) : byte16 (word16 lo hi) 1 = hi := by
  apply UInt8.toNat_inj.mp
  have hlo := lo.toNat_lt
  have hhi := hi.toNat_lt
  simp [byte16, word16_toNat, Nat.shiftRight_eq_div_pow, and_255]
  omega

@[simp] theorem word32_bytes (v : UInt32) :
    word32 (byte32 v 0) (byte32 v 1) (byte32 v 2) (byte32 v 3) = v := by
  apply UInt32.toNat_inj.mp
  have hv := v.toNat_lt
  rw [word32_toNat]
  simp [byte32, Nat.shiftRight_eq_div_pow, and_255]
  omega

end SplitFlap.MaskedXor
