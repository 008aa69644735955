/-
  SplitFlap.Lib.TornBlock — sealed blocks written byte by byte, and cut short.

  A memory keeps records in blocks that end in a masked XOR of themselves.  A
  block is rewritten in place, a byte at a time in order; when the power goes
  after `j` bytes, the block holds the first `j` of the new bytes before the
  rest of the old ones (`blockAt_poke`).  Such a block is still sealed exactly
  when the first `j` bytes of both have the same XOR (`torn_sealed_iff`), so a
  codec tells a record that was never held exactly when some prefix cancels
  without being the whole change (`never_mixed_iff`).
-/
import SplitFlap.Lib.MaskedXor
import Mathlib.Logic.Function.Basic

namespace SplitFlap.TornBlock

open MaskedXor

variable {n : Nat} {α : Type}

/-! ## §1. Writes in order. -/

abbrev Memory := Nat → UInt8

def poke (memory : Memory) (writes : List (Nat × UInt8)) : Memory :=
  writes.foldl (fun memory w => Function.update memory w.1 w.2) memory

/-- The writes of `bytes` from `base` on, in order. -/
def writesAt : (base : Nat) → (bytes : List UInt8) → List (Nat × UInt8)
  | _, [] => []
  | base, b :: bytes => (base, b) :: writesAt (base + 1) bytes

/-- The block of `n` bytes at `base`. -/
def blockAt (n base : Nat) (memory : Memory) : Vector UInt8 n :=
  Vector.ofFn fun i => memory (base + i)

@[simp] theorem writesAt_length (base : Nat) (bytes : List UInt8) :
    (writesAt base bytes).length = bytes.length := by
  induction bytes generalizing base with
  | nil => rfl
  | cons b bytes ih => rw [writesAt, List.length_cons, List.length_cons, ih]

theorem poke_append (memory : Memory) (writes more : List (Nat × UInt8)) :
    poke memory (writes ++ more) = poke (poke memory writes) more := List.foldl_append

/-- An address none of the writes goes to keeps its byte. -/
theorem poke_other {writes : List (Nat × UInt8)} {a : Nat} (h : ∀ w ∈ writes, a ≠ w.1)
    (memory : Memory) : poke memory writes a = memory a := by
  induction writes generalizing memory with
  | nil => rfl
  | cons w writes ih =>
      show poke (Function.update memory w.1 w.2) writes a = memory a
      rw [ih fun w' hw' => h w' (List.mem_cons_of_mem _ hw')]
      exact Function.update_of_ne (h w List.mem_cons_self) _ _

/-- What `j` of the writes leave at an address. -/
theorem poke_writesAt (base : Nat) (bytes : List UInt8) (j : Nat) (memory : Memory) (a : Nat) :
    poke memory ((writesAt base bytes).take j) a =
      if base ≤ a ∧ a - base < j then bytes.getD (a - base) (memory a) else memory a := by
  induction bytes generalizing base j memory with
  | nil =>
      rw [writesAt, List.take_nil, List.getD_nil, ite_self]
      rfl
  | cons b bytes ih =>
      cases j with
      | zero =>
          rw [if_neg (by omega)]
          rfl
      | succ j =>
          show poke (Function.update memory base b) ((writesAt (base + 1) bytes).take j) a = _
          rw [ih]
          rcases Nat.lt_trichotomy a base with hbefore | rfl | hafter
          · rw [if_neg (by omega), if_neg (by omega)]
            exact Function.update_of_ne (Nat.ne_of_lt hbefore) _ _
          · rw [if_neg (by omega), if_pos (by omega), Nat.sub_self, List.getD_cons_zero]
            exact Function.update_self _ _ _
          · have hsub : a - base = a - (base + 1) + 1 := by omega
            have hkeeps : Function.update memory base b a = memory a :=
              Function.update_of_ne (Nat.ne_of_gt hafter) _ _
            rw [hsub, List.getD_cons_succ, hkeeps]
            by_cases hlt : a - (base + 1) < j
            · rw [if_pos (by omega), if_pos (by omega)]
            · rw [if_neg (by omega), if_neg (by omega)]

theorem mem_writesAt {base : Nat} {bytes : List UInt8} {w : Nat × UInt8}
    (h : w ∈ writesAt base bytes) : base ≤ w.1 ∧ w.1 < base + bytes.length := by
  induction bytes generalizing base with
  | nil => exact absurd h List.not_mem_nil
  | cons b bytes ih =>
      rw [List.length_cons]
      rcases List.mem_cons.mp h with rfl | hmem
      · exact ⟨Nat.le_refl _, by omega⟩
      · have hin := ih hmem
        omega

/-! ## §2. A write that is cut short. -/

/-- The first `j` bytes are of `new`, the rest of `old`. -/
def torn (old new : Vector UInt8 n) (j : Nat) : Vector UInt8 n :=
  Vector.ofFn fun i => if i.val < j then new[i] else old[i]

theorem blockAt_poke (base : Nat) (new : Vector UInt8 n) (j : Nat) (memory : Memory) :
    blockAt n base (poke memory ((writesAt base new.toList).take j)) =
      torn (blockAt n base memory) new j := by
  apply Vector.ext
  intro i hi
  have hsub : base + i - base = i := by omega
  simp only [blockAt, torn, Vector.getElem_ofFn, Fin.getElem_fin]
  rw [poke_writesAt, hsub]
  by_cases hlt : i < j
  · rw [if_pos ⟨Nat.le_add_right _ _, hlt⟩, if_pos hlt, List.getD_eq_getElem?_getD]
    simp [hi]
  · rw [if_neg (by omega), if_neg hlt]

/-- Writes beside a block leave it as it is. -/
theorem blockAt_poke_other {base : Nat} {writes : List (Nat × UInt8)}
    (h : ∀ w ∈ writes, w.1 < base ∨ base + n ≤ w.1) (memory : Memory) :
    blockAt n base (poke memory writes) = blockAt n base memory := by
  apply Vector.ext
  intro i hi
  simp only [blockAt, Vector.getElem_ofFn]
  apply poke_other
  intro w hw heq
  have haway := h w hw
  omega

theorem torn_toList (old new : Vector UInt8 n) (j : Nat) :
    (torn old new j).toList = new.toList.take j ++ old.toList.drop j := by
  apply List.ext_getElem
  · simp
    omega
  · intro i hi hi'
    have hn : i < n := by simpa using hi
    simp only [torn, Vector.getElem_toList, Vector.getElem_ofFn, Fin.getElem_fin]
    by_cases hlt : i < j
    · rw [if_pos hlt, List.getElem_append_left (by simp; omega)]
      simp
    · rw [if_neg hlt, List.getElem_append_right (by simp; omega)]
      simp only [List.getElem_drop, List.length_take, Vector.length_toList, Vector.getElem_toList]
      congr 1
      omega

theorem torn_eq_old_iff {old new : Vector UInt8 n} {j : Nat} :
    torn old new j = old ↔ new.toList.take j = old.toList.take j := by
  rw [← Vector.toList_inj, torn_toList]
  constructor
  · intro h
    have hsplit : new.toList.take j ++ old.toList.drop j = old.toList.take j ++ old.toList.drop j := by
      rw [h, List.take_append_drop]
    exact List.append_cancel_right hsplit
  · intro h
    rw [h, List.take_append_drop]

theorem torn_eq_new_iff {old new : Vector UInt8 n} {j : Nat} :
    torn old new j = new ↔ old.toList.drop j = new.toList.drop j := by
  rw [← Vector.toList_inj, torn_toList]
  constructor
  · intro h
    have hsplit : new.toList.take j ++ old.toList.drop j = new.toList.take j ++ new.toList.drop j := by
      rw [h, List.take_append_drop]
    exact List.append_cancel_left hsplit
  · intro h
    rw [h, List.take_append_drop]

/-- **A torn block is sealed exactly when the change so far cancels.** -/
theorem torn_sealed_iff {mask : UInt8} {old new : Vector UInt8 (n + 1)} (hold : Sealed mask old)
    (j : Nat) : Sealed mask (torn old new j) ↔
      xorAll (new.toList.take j) = xorAll (old.toList.take j) := by
  rw [sealed_iff] at hold ⊢
  have hparts : xorAll (old.toList.take j) ^^^ xorAll (old.toList.drop j) = mask := by
    rw [← xorAll_append, List.take_append_drop, hold]
  rw [torn_toList, xorAll_append, ← hparts]
  exact UInt8.xor_left_inj _

theorem torn_whole (old new : Vector UInt8 n) {j : Nat} (hj : n ≤ j) : torn old new j = new := by
  rw [torn_eq_new_iff, List.drop_of_length_le (by simpa using hj),
    List.drop_of_length_le (by simpa using hj)]

theorem blockAt_poke_whole (base : Nat) (new : Vector UInt8 n) (memory : Memory) :
    blockAt n base (poke memory (writesAt base new.toList)) = new := by
  have htorn := blockAt_poke base new n memory
  rwa [List.take_of_length_le (by simp), torn_whole _ _ (Nat.le_refl n)] at htorn

/-- A prefix of the change whose XOR is 0 is none of it or all of it. -/
def CancelsOnlyWhole (old new : List UInt8) : Prop :=
  ∀ j, xorAll (new.take j) = xorAll (old.take j) →
    new.take j = old.take j ∨ old.drop j = new.drop j

/-- A byte in front that does not change. -/
theorem CancelsOnlyWhole.cons {old new : List UInt8} (h : CancelsOnlyWhole old new) (b : UInt8) :
    CancelsOnlyWhole (b :: old) (b :: new) := by
  intro j hxor
  cases j with
  | zero => exact Or.inl rfl
  | succ j =>
      rw [List.take_succ_cons, List.take_succ_cons, xorAll_cons, xorAll_cons,
        UInt8.xor_right_inj] at hxor
      rcases h j hxor with htake | hdrop
      · left
        rw [List.take_succ_cons, List.take_succ_cons, htake]
      · right
        rw [List.drop_succ_cons, List.drop_succ_cons, hdrop]

/-- **Two bytes and their checksum** cannot be mixed: one byte does not cancel,
and two leave only the checksum. -/
theorem cancels_two {a b c a' b' c' : UInt8}
    (hsum : xorAll [a', b', c'] = xorAll [a, b, c]) :
    CancelsOnlyWhole [a, b, c] [a', b', c'] := by
  intro j hxor
  match j with
  | 0 => exact Or.inl rfl
  | 1 =>
      left
      have hone : xorAll [a'] = xorAll [a] := hxor
      rw [xorAll_cons, xorAll_cons, UInt8.xor_left_inj] at hone
      rw [hone]
      rfl
  | 2 =>
      right
      have htwo : xorAll [a', b'] = xorAll [a, b] := hxor
      have hthree : xorAll ([a', b'] ++ [c']) = xorAll ([a, b] ++ [c]) := hsum
      rw [xorAll_append, xorAll_append, htwo, UInt8.xor_right_inj, xorAll_cons, xorAll_cons,
        UInt8.xor_left_inj] at hthree
      rw [hthree]
      rfl
  | j + 3 =>
      right
      simp

theorem torn_cases {mask : UInt8} {old new : Vector UInt8 (n + 1)} (hold : Sealed mask old)
    (h : CancelsOnlyWhole old.toList new.toList) (j : Nat) :
    ¬Sealed mask (torn old new j) ∨ torn old new j = old ∨ torn old new j = new := by
  by_cases hsealed : Sealed mask (torn old new j)
  · right
    rw [torn_eq_old_iff, torn_eq_new_iff]
    exact h j ((torn_sealed_iff hold j).mp hsealed)
  · exact Or.inl hsealed

/-! ## §3. Records in blocks. -/

/-- `decode` takes the blocks that are sealed, and tells what `encode` made of
the record. -/
structure Kept (mask : UInt8) (encode : α → Vector UInt8 (n + 1))
    (decode : Vector UInt8 (n + 1) → Bool × α) : Prop where
  seals : ∀ r, Sealed mask (encode r)
  accepts : ∀ b, (decode b).1 = true ↔ Sealed mask b
  reads : ∀ b, Sealed mask b → encode (decode b).2 = b
  tells : ∀ r, (decode (encode r)).2 = r

/-- A codec that seals the payload and reads it back byte for byte. -/
theorem kept_of_payload {mask : UInt8} {payload : α → Vector UInt8 n}
    {read : Vector UInt8 (n + 1) → α} {empty : α}
    (hread : ∀ r, read (withChecksum mask (payload r)) = r)
    (hpayload : ∀ b, payload (read b) = b.pop) :
    Kept mask (fun r => withChecksum mask (payload r))
      (fun b => if b.get (Fin.last n) ≠ checksum mask b then (false, empty) else (true, read b)) := by
  have htakes : ∀ b, Sealed mask b →
      (if b.get (Fin.last n) ≠ checksum mask b then (false, empty) else (true, read b)) = (true, read b) :=
    fun b hsealed => if_neg (not_not_intro hsealed)
  constructor
  · exact fun r => withChecksum_sealed mask (payload r)
  · intro b
    unfold Sealed
    split
    · next hno => exact ⟨fun h => Bool.noConfusion h, fun h => absurd h hno⟩
    · next hyes => exact ⟨fun _ => Decidable.not_not.mp hyes, fun _ => rfl⟩
  · intro b hsealed
    rw [htakes b hsealed]
    have hpop : xorAll b.pop.toList ^^^ mask = b[n] := by
      rw [hsealed, checksum]
      congr 2
      rw [Vector.toList_pop, List.dropLast_eq_take, Vector.length_toList, Nat.add_sub_cancel]
    show withChecksum mask (payload (read b)) = b
    rw [hpayload, withChecksum, hpop]
    exact Vector.push_pop_back b
  · intro r
    rw [htakes _ (withChecksum_sealed mask (payload r))]
    exact hread r

/-- However the write of `new` over `old` is cut short, the block is unreadable
or tells one of the two. -/
def NeverMixed (base : Nat) (encode : α → Vector UInt8 (n + 1))
    (decode : Vector UInt8 (n + 1) → Bool × α) (old new : α) : Prop :=
  ∀ memory, blockAt (n + 1) base memory = encode old → ∀ j,
    (decode (blockAt (n + 1) base
      (poke memory ((writesAt base (encode new).toList).take j)))).1 = false ∨
    (decode (blockAt (n + 1) base
      (poke memory ((writesAt base (encode new).toList).take j)))).2 = old ∨
    (decode (blockAt (n + 1) base
      (poke memory ((writesAt base (encode new).toList).take j)))).2 = new

variable {mask : UInt8} {encode : α → Vector UInt8 (n + 1)}
  {decode : Vector UInt8 (n + 1) → Bool × α}

/-- Every block is at some place of some memory. -/
theorem exists_memory (base : Nat) (block : Vector UInt8 n) :
    ∃ memory, blockAt n base memory = block := by
  refine ⟨poke (fun _ => 0) ((writesAt base block.toList).take n), ?_⟩
  rw [blockAt_poke, torn_eq_new_iff]
  rw [List.drop_of_length_le (by simp), List.drop_of_length_le (by simp)]

/-- **A record that was never held** is told exactly when some prefix cancels
before the whole change is written. -/
theorem never_mixed_iff (h : Kept mask encode decode) (base : Nat) (old new : α) :
    NeverMixed base encode decode old new ↔
      CancelsOnlyWhole (encode old).toList (encode new).toList := by
  have hcase : ∀ j, ((decode (torn (encode old) (encode new) j)).1 = false ∨
      (decode (torn (encode old) (encode new) j)).2 = old ∨
      (decode (torn (encode old) (encode new) j)).2 = new) ↔
      (xorAll ((encode new).toList.take j) = xorAll ((encode old).toList.take j) →
        (encode new).toList.take j = (encode old).toList.take j ∨
          (encode old).toList.drop j = (encode new).toList.drop j) := by
    intro j
    rw [← torn_sealed_iff (h.seals old), ← torn_eq_old_iff, ← torn_eq_new_iff,
      ← Bool.not_eq_true, h.accepts]
    constructor
    · rintro (hno | hold | hnew) hsealed
      · exact absurd hsealed hno
      · left
        rw [← h.reads _ hsealed, hold]
      · right
        rw [← h.reads _ hsealed, hnew]
    · intro hwhole
      by_cases hsealed : Sealed mask (torn (encode old) (encode new) j)
      · right
        rcases hwhole hsealed with heq | heq
        · rw [heq, h.tells]
          exact Or.inl rfl
        · rw [heq, h.tells]
          exact Or.inr rfl
      · exact Or.inl hsealed
  constructor
  · intro hnever j
    obtain ⟨memory, hmemory⟩ := exists_memory base (encode old)
    have hj := hnever memory hmemory j
    rw [blockAt_poke, hmemory] at hj
    exact (hcase j).mp hj
  · intro hcancels memory hmemory j
    rw [blockAt_poke, hmemory]
    exact (hcase j).mpr (hcancels j)

end SplitFlap.TornBlock
