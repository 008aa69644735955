/-
  SplitFlap.Unit.Odometer — the revolution count and its ring of slots.

  `UnitOdometer.h` and its use in `Unit.ino`: a count is persisted into the slot
  that its own value picks, four bytes and a checksum, and the boot takes the
  largest count whose checksum agrees.  A write that is cut short leaves a slot
  with bytes of two counts under a checksum of the older one, and an XOR over
  four bytes does not tell every such mixture.  It need not: a mixture is either
  the new count, or so far below it that the last good count outweighs it
  (`mixed_cases`), whatever its checksum says.
-/
import SplitFlap.Lib.Machine
import SplitFlap.Lib.MaskedXor
import Mathlib.Logic.Function.Basic
import Mathlib.Tactic.IntervalCases

namespace SplitFlap

open Machine MaskedXor

/-! ## §1. The ring. -/

abbrev ODO_RING_SLOTS : Nat := 16

abbrev ODO_PERSIST_INTERVAL_REVS : UInt32 := 1

abbrev ODO_SLOT_STRIDE : Nat := 5

abbrev ODO_SLOT_CHECKSUM_MASK : UInt8 := 0x3C

/-- `odometerSlotIndex`: which slot a persist of this count writes into. -/
def odometerSlotIndex (revolutions : UInt32) : Nat :=
  (revolutions / ODO_PERSIST_INTERVAL_REVS).toNat % ODO_RING_SLOTS

def odometerSlotOffset (slot : Nat) : Nat := slot * ODO_SLOT_STRIDE

def odometerShouldPersist (revolutions lastPersisted : UInt32) : Bool :=
  ODO_PERSIST_INTERVAL_REVS ≤ revolutions - lastPersisted

def odometerSlotChecksum (value : UInt32) : UInt8 :=
  byte32 value 0 ^^^ byte32 value 1 ^^^ byte32 value 2 ^^^ byte32 value 3 ^^^
    ODO_SLOT_CHECKSUM_MASK

/-- `odometerBootScanSlot`, on the best count so far. -/
def odometerBootScanSlot (best value : UInt32) (checksum : UInt8) : UInt32 :=
  if value ≠ 0xFFFFFFFF ∧ checksum = odometerSlotChecksum value ∧ best < value then value else best

/-- The ring's bytes, from its base on. -/
abbrev Ring := Nat → UInt8

/-- `EEPROM.get` of a slot's count. -/
def slotValue (ring : Ring) (slot : Nat) : UInt32 :=
  word32 (ring (odometerSlotOffset slot)) (ring (odometerSlotOffset slot + 1))
    (ring (odometerSlotOffset slot + 2)) (ring (odometerSlotOffset slot + 3))

def slotSum (ring : Ring) (slot : Nat) : UInt8 := ring (odometerSlotOffset slot + 4)

/-- The recovery at start. -/
def odometerBootScan (ring : Ring) : UInt32 :=
  (List.range ODO_RING_SLOTS).foldl
    (fun best slot => odometerBootScanSlot best (slotValue ring slot) (slotSum ring slot)) 0

/-- The bytes of one persist, in the order they are written: `EEPROM.put` of the
count, then its checksum. -/
def persistWrites (revs : UInt32) : List (Nat × UInt8) :=
  [(odometerSlotOffset (odometerSlotIndex revs), byte32 revs 0),
    (odometerSlotOffset (odometerSlotIndex revs) + 1, byte32 revs 1),
    (odometerSlotOffset (odometerSlotIndex revs) + 2, byte32 revs 2),
    (odometerSlotOffset (odometerSlotIndex revs) + 3, byte32 revs 3),
    (odometerSlotOffset (odometerSlotIndex revs) + 4, odometerSlotChecksum revs)]

/-! ## §2. The unit, persisting. -/

/-- The swept ring, the count that was persisted or recovered last, and the
persist that is under way: its count and the bytes still to be written. -/
structure OdometerUnit where
  ring : Ring := fun _ => 0
  lastPersistedRevs : UInt32 := 0
  writing : Option (UInt32 × List (Nat × UInt8)) := none

inductive OdometerStep where
  /-- The loop finds the count grown, by at most fifteen. -/
  | persist (revs : UInt32)
  | byte
  | done
  /-- The power goes, and the unit starts again. -/
  | cut

namespace OdometerUnit

def step (u : OdometerUnit) : OdometerStep → Option OdometerUnit
  | .persist revs =>
      if u.writing = none ∧ odometerShouldPersist revs u.lastPersistedRevs = true ∧
          u.lastPersistedRevs < revs ∧ revs.toNat ≤ u.lastPersistedRevs.toNat + 15 ∧
          revs ≠ 0xFFFFFFFF then
        some { u with writing := some (revs, persistWrites revs) }
      else none
  | .byte =>
      match u.writing with
      | some (revs, (at', b) :: rest) =>
          some { u with ring := Function.update u.ring at' b, writing := some (revs, rest) }
      | _ => none
  | .done =>
      match u.writing with
      | some (revs, []) => some { u with lastPersistedRevs := revs, writing := none }
      | _ => none
  | .cut => some { u with lastPersistedRevs := odometerBootScan u.ring, writing := none }

end OdometerUnit

/-! ## §3. The scan. -/

/-- A slot the scan accepts. -/
def SlotValid (ring : Ring) (slot : Nat) : Prop :=
  slotValue ring slot ≠ 0xFFFFFFFF ∧ slotSum ring slot = odometerSlotChecksum (slotValue ring slot)

/-- The scan's result is the largest count of a valid slot, or 0. -/
theorem odometerBootScan_max (ring : Ring) :
    (∀ slot < ODO_RING_SLOTS, SlotValid ring slot →
      slotValue ring slot ≤ odometerBootScan ring) ∧
      (odometerBootScan ring = 0 ∨ ∃ slot < ODO_RING_SLOTS, SlotValid ring slot ∧
        slotValue ring slot = odometerBootScan ring) := by
  unfold odometerBootScan
  induction ODO_RING_SLOTS with
  | zero => exact ⟨fun slot h => absurd h (Nat.not_lt_zero _), .inl rfl⟩
  | succ n ih =>
      rw [List.range_succ, List.foldl_append, List.foldl_cons, List.foldl_nil]
      generalize (List.range n).foldl (fun best slot => odometerBootScanSlot best
        (slotValue ring slot) (slotSum ring slot)) 0 = best at ih ⊢
      obtain ⟨hall, hbest⟩ := ih
      have hslot : ∀ slot, slot < n + 1 → slot < n ∨ slot = n := fun slot h => by omega
      unfold odometerBootScanSlot
      split
      · next htakes =>
          obtain ⟨hreal, hsum, hmore⟩ := htakes
          refine ⟨fun slot hlt hvalid => ?_, .inr ⟨n, Nat.lt_succ_self n, ⟨hreal, hsum⟩, rfl⟩⟩
          rcases hslot slot hlt with hlt | rfl
          · exact UInt32.le_trans (hall slot hlt hvalid) (UInt32.le_of_lt hmore)
          · exact UInt32.le_refl _
      · next hleaves =>
          refine ⟨fun slot hlt hvalid => ?_, ?_⟩
          · rcases hslot slot hlt with hlt | rfl
            · exact hall slot hlt hvalid
            · rw [← UInt32.not_lt]
              exact fun hmore => hleaves ⟨hvalid.1, hvalid.2, hmore⟩
          · rcases hbest with hzero | ⟨slot, hlt, hvalid, hvalue⟩
            · exact .inl hzero
            · exact .inr ⟨slot, Nat.lt_succ_of_lt hlt, hvalid, hvalue⟩

/-! ## §4. A slot with bytes of two counts. -/

/-- The first `j` bytes of a persist, on a ring. -/
def torn (ring : Ring) (revs : UInt32) (j : Nat) : Ring :=
  ((persistWrites revs).take j).foldl (fun ring w => Function.update ring w.1 w.2) ring

theorem byte32_toNat (v : UInt32) :
    (byte32 v 0).toNat = v.toNat % 256 ∧ (byte32 v 1).toNat = v.toNat / 256 % 256 ∧
      (byte32 v 2).toNat = v.toNat / 65536 % 256 ∧ (byte32 v 3).toNat = v.toNat / 16777216 := by
  have hv := v.toNat_lt
  refine ⟨?_, ?_, ?_, ?_⟩
  · simp [byte32, and_255]
  · simp [byte32, Nat.shiftRight_eq_div_pow, and_255]
  · simp [byte32, Nat.shiftRight_eq_div_pow, and_255]
  · simp [byte32, Nat.shiftRight_eq_div_pow, and_255]
    omega

/-- Nothing outside the slot is written. -/
theorem torn_other (ring : Ring) (revs : UInt32) (j : Nat) {a : Nat}
    (ha : ∀ i < 5, a ≠ odometerSlotOffset (odometerSlotIndex revs) + i) :
    torn ring revs j a = ring a := by
  have hfold : ∀ (ws : List (Nat × UInt8)) (ring : Ring), (∀ w ∈ ws, a ≠ w.1) →
      ws.foldl (fun ring w => Function.update ring w.1 w.2) ring a = ring a := by
    intro ws
    induction ws with
    | nil => exact fun _ _ => rfl
    | cons w ws ih =>
        intro ring hws
        rw [List.foldl_cons, ih _ fun w' hw' => hws w' (List.mem_cons_of_mem _ hw')]
        exact Function.update_of_ne (hws w List.mem_cons_self) _ _
  apply hfold
  intro w hw
  have hmem := List.mem_of_mem_take hw
  simp only [persistWrites, List.mem_cons, List.not_mem_nil, or_false] at hmem
  rcases hmem with rfl | rfl | rfl | rfl | rfl
  · exact ha 0 (by decide)
  · exact ha 1 (by decide)
  · exact ha 2 (by decide)
  · exact ha 3 (by decide)
  · exact ha 4 (by decide)

theorem odometerSlotIndex_lt (revs : UInt32) : odometerSlotIndex revs < ODO_RING_SLOTS :=
  Nat.mod_lt _ (by decide)

theorem odometerSlotIndex_eq (revs : UInt32) : odometerSlotIndex revs = revs.toNat % 16 := by
  unfold odometerSlotIndex
  rw [UInt32.toNat_div]
  show revs.toNat / 1 % 16 = _
  rw [Nat.div_one]

theorem torn_otherSlot (ring : Ring) (revs : UInt32) (j : Nat) {slot : Nat}
    (hslot : slot ≠ odometerSlotIndex revs) :
    slotValue (torn ring revs j) slot = slotValue ring slot ∧
      slotSum (torn ring revs j) slot = slotSum ring slot := by
  have hsame : ∀ i < 5, torn ring revs j (odometerSlotOffset slot + i) =
      ring (odometerSlotOffset slot + i) := by
    intro i hi
    apply torn_other
    intro i' hi'
    show slot * 5 + i ≠ odometerSlotIndex revs * 5 + i'
    omega
  unfold slotValue slotSum
  rw [hsame 1 (by decide), hsame 2 (by decide), hsame 3 (by decide), hsame 4 (by decide)]
  exact ⟨by rw [show torn ring revs j (odometerSlotOffset slot) = _ from hsame 0 (by decide)]; rfl,
    rfl⟩

/-- The slot after the first `j` bytes: low bytes of the new count under high
bytes of the old one. -/
theorem torn_value (ring : Ring) (revs : UInt32) {j : Nat} (hj : j ≤ 4) :
    (slotValue (torn ring revs j) (odometerSlotIndex revs)).toNat =
      revs.toNat % 256 ^ j +
        (slotValue ring (odometerSlotIndex revs)).toNat / 256 ^ j * 256 ^ j ∧
      slotSum (torn ring revs j) (odometerSlotIndex revs) =
        slotSum ring (odometerSlotIndex revs) := by
  have hrevs := revs.toNat_lt
  have h0 := (ring (odometerSlotOffset (odometerSlotIndex revs))).toNat_lt
  have h1 := (ring (odometerSlotOffset (odometerSlotIndex revs) + 1)).toNat_lt
  have h2 := (ring (odometerSlotOffset (odometerSlotIndex revs) + 2)).toNat_lt
  have h3 := (ring (odometerSlotOffset (odometerSlotIndex revs) + 3)).toNat_lt
  obtain ⟨b0, b1, b2, b3⟩ := byte32_toNat revs
  unfold slotValue slotSum torn persistWrites
  rw [word32_toNat, word32_toNat]
  generalize odometerSlotOffset (odometerSlotIndex revs) = o at *
  -- one case for each number of bytes
  interval_cases j
  · simp
    omega
  · simp [b0]
    omega
  · simp [b0, b1]
    omega
  · simp [b0, b1, b2]
    omega
  · simp [b0, b1, b2, b3]
    omega

/-- After the fifth byte the slot holds the new count under its checksum. -/
theorem torn_whole (ring : Ring) (revs : UInt32) :
    slotValue (torn ring revs 5) (odometerSlotIndex revs) = revs ∧
      slotSum (torn ring revs 5) (odometerSlotIndex revs) = odometerSlotChecksum revs := by
  have hvalue : slotValue (torn ring revs 5) (odometerSlotIndex revs) =
      word32 (byte32 revs 0) (byte32 revs 1) (byte32 revs 2) (byte32 revs 3) := by
    unfold slotValue torn persistWrites
    generalize odometerSlotOffset (odometerSlotIndex revs) = o
    simp
  refine ⟨hvalue.trans (word32_bytes revs), ?_⟩
  unfold slotSum torn persistWrites
  simp

/-- **A mixture is the new count, or far below it**: with the new count no less
than what the slot held, and a byte of it at least written. -/
theorem mixed_cases {n v j : Nat} (hv : v ≤ n) (hj : 1 ≤ j) :
    n % 256 ^ j + v / 256 ^ j * 256 ^ j = n ∨ n % 256 ^ j + v / 256 ^ j * 256 ^ j + 256 ≤ n := by
  have hbase : 256 ≤ 256 ^ j := by
    calc 256 = 256 ^ 1 := rfl
      _ ≤ 256 ^ j := Nat.pow_le_pow_right (by decide) hj
  have hhigh : v / 256 ^ j ≤ n / 256 ^ j := Nat.div_le_div_right hv
  rcases Nat.lt_or_eq_of_le hhigh with hless | hsame
  · right
    calc n % 256 ^ j + v / 256 ^ j * 256 ^ j + 256
        ≤ n % 256 ^ j + v / 256 ^ j * 256 ^ j + 256 ^ j := Nat.add_le_add_left hbase _
      _ = n % 256 ^ j + (v / 256 ^ j + 1) * 256 ^ j := by
          rw [Nat.add_mul, Nat.one_mul, Nat.add_assoc]
      _ ≤ n % 256 ^ j + n / 256 ^ j * 256 ^ j :=
          Nat.add_le_add_left (Nat.mul_le_mul_right _ hless) _
      _ = n := Nat.mod_add_div' n (256 ^ j)
  · left
    rw [hsame]
    exact Nat.mod_add_div' n (256 ^ j)

/-! ## §5. The last good count. -/

/-- The least count from `last` on that a slot takes. -/
def nextAt (last slot : Nat) : Nat := last + (slot + 16 - last % 16) % 16

/-- The ring with `last` as its last good count: no valid slot holds more, the
slot of `last` holds it, and what bytes a slot has, valid or not, are of no
count beyond the next it takes. -/
structure Holding (ring : Ring) (last : UInt32) : Prop where
  valid : ∀ slot < ODO_RING_SLOTS, SlotValid ring slot → slotValue ring slot ≤ last
  held : last = 0 ∨ slotValue ring (odometerSlotIndex last) = last ∧
    slotSum ring (odometerSlotIndex last) = odometerSlotChecksum last
  raw : ∀ slot < ODO_RING_SLOTS, (slotValue ring slot).toNat ≤ nextAt last.toNat slot
  real : last ≠ 0xFFFFFFFF

/-- The next count: up to fifteen more, and not the erased value. -/
structure Next (last revs : UInt32) : Prop where
  more : last.toNat < revs.toNat
  near : revs.toNat ≤ last.toNat + 15
  real : revs ≠ 0xFFFFFFFF

variable {ring : Ring} {last revs : UInt32}

/-- A next count goes into another slot than the last one. -/
theorem Next.slot (h : Next last revs) : odometerSlotIndex last ≠ odometerSlotIndex revs := by
  rw [odometerSlotIndex_eq, odometerSlotIndex_eq]
  have hmore := h.more
  have hnear := h.near
  omega

/-- What a slot may hold is no more than the next count for it. -/
theorem Holding.raw_le (h : Holding ring last) (hnext : Next last revs) :
    (slotValue ring (odometerSlotIndex revs)).toNat ≤ revs.toNat := by
  refine Nat.le_trans (h.raw _ (odometerSlotIndex_lt revs)) ?_
  rw [odometerSlotIndex_eq]
  unfold nextAt
  have hmore := hnext.more
  have hnear := hnext.near
  omega

/-- What the slot holds after any part of a persist: at most what it may, and if
it is valid, the new count or no more than the last. -/
theorem Holding.torn_cases (h : Holding ring last) (hnext : Next last revs) {j : Nat}
    (hj : j ≤ 5) :
    (slotValue (torn ring revs j) (odometerSlotIndex revs)).toNat ≤ revs.toNat ∧
      (SlotValid (torn ring revs j) (odometerSlotIndex revs) →
        slotValue (torn ring revs j) (odometerSlotIndex revs) = revs ∨
          slotValue (torn ring revs j) (odometerSlotIndex revs) ≤ last) := by
  have hraw := h.raw_le hnext
  rcases Nat.lt_or_eq_of_le hj with hlt | rfl
  · obtain ⟨hvalue, hsum⟩ := torn_value ring revs (Nat.le_of_lt_succ hlt)
    rcases Nat.eq_zero_or_pos j with rfl | hpos
    · -- nothing is written yet
      have hsame : slotValue (torn ring revs 0) (odometerSlotIndex revs) =
          slotValue ring (odometerSlotIndex revs) := rfl
      refine ⟨by rw [hsame]; exact hraw, fun hvalid => .inr ?_⟩
      exact h.valid _ (odometerSlotIndex_lt revs) hvalid
    · rcases mixed_cases hraw hpos with hnew | hlow
      · rw [hnew] at hvalue
        exact ⟨Nat.le_of_eq hvalue, fun _ => .inl (UInt32.toNat_inj.mp hvalue)⟩
      · rw [← hvalue] at hlow
        refine ⟨by omega, fun _ => .inr (UInt32.le_iff_toNat_le.mpr ?_)⟩
        have hnear := hnext.near
        omega
  · have hwhole := (torn_whole ring revs).1
    rw [hwhole]
    exact ⟨Nat.le_refl _, fun _ => .inl rfl⟩

/-- **The scan of a torn ring** finds the last good count or the one that was
being written. -/
theorem Holding.scan_torn (h : Holding ring last) (hnext : Next last revs) {j : Nat}
    (hj : j ≤ 5) :
    odometerBootScan (torn ring revs j) = last ∨ odometerBootScan (torn ring revs j) = revs := by
  obtain ⟨hall, hbest⟩ := odometerBootScan_max (torn ring revs j)
  have hothers : ∀ slot < ODO_RING_SLOTS, SlotValid (torn ring revs j) slot →
      slotValue (torn ring revs j) slot = revs ∨ slotValue (torn ring revs j) slot ≤ last := by
    intro slot hslot hvalid
    by_cases hsame : slot = odometerSlotIndex revs
    · subst hsame
      exact (h.torn_cases hnext hj).2 hvalid
    · right
      obtain ⟨hvalue, hsum⟩ := torn_otherSlot ring revs j hsame
      unfold SlotValid at hvalid
      rw [hvalue] at hvalid ⊢
      rw [hsum] at hvalid
      exact h.valid slot hslot hvalid
  have hlast : last ≤ odometerBootScan (torn ring revs j) := by
    rcases h.held with hzero | ⟨hvalue, hsum⟩
    · rw [hzero]
      exact UInt32.le_iff_toNat_le.mpr (Nat.zero_le _)
    · -- the last good count's slot is another one, and as it was
      obtain ⟨hvalue', hsum'⟩ := torn_otherSlot ring revs j hnext.slot
      rw [hvalue] at hvalue'
      have hle := hall _ (odometerSlotIndex_lt last)
        ⟨by rw [hvalue']; exact h.real, by rw [hsum', hsum, hvalue']⟩
      rw [hvalue'] at hle
      exact hle
  rcases hbest with hzero | ⟨slot, hslot, hvalid, hvalue⟩
  · left
    rw [hzero] at hlast ⊢
    exact UInt32.le_antisymm (UInt32.le_iff_toNat_le.mpr (Nat.zero_le _)) hlast
  · rw [← hvalue] at hlast ⊢
    rcases hothers slot hslot hvalid with hnew | hold
    · exact .inr hnew
    · exact .inl (UInt32.le_antisymm hold hlast)

/-- **What a cut leaves** is a ring that holds the count the scan finds. -/
theorem Holding.torn (h : Holding ring last) (hnext : Next last revs) {j : Nat} (hj : j ≤ 5) :
    Holding (torn ring revs j) (odometerBootScan (torn ring revs j)) := by
  obtain ⟨hall, hbest⟩ := odometerBootScan_max (SplitFlap.torn ring revs j)
  have hmore := hnext.more
  have hnear := hnext.near
  have hindex := odometerSlotIndex_eq revs
  have hraw : ∀ slot < ODO_RING_SLOTS,
      (slotValue (SplitFlap.torn ring revs j) slot).toNat ≤ nextAt last.toNat slot := by
    intro slot hslot
    by_cases hsame : slot = odometerSlotIndex revs
    · have hle := (h.torn_cases hnext hj).1
      rw [hsame]
      unfold nextAt
      omega
    · rw [(torn_otherSlot ring revs j hsame).1]
      exact h.raw slot hslot
  rcases h.scan_torn hnext hj with hlast | hnew
  · rw [hlast] at hall ⊢
    refine ⟨hall, ?_, hraw, h.real⟩
    rcases h.held with hzero | ⟨hvalue, hsum⟩
    · exact .inl hzero
    · obtain ⟨hvalue', hsum'⟩ := torn_otherSlot ring revs j hnext.slot
      exact .inr ⟨hvalue'.trans hvalue, hsum'.trans hsum⟩
  · rw [hnew] at hall hbest ⊢
    refine ⟨hall, .inr ?_, ?_, hnext.real⟩
    · -- only the slot that was written can hold so much
      rcases hbest with hzero | ⟨slot, hslot, hvalid, hvalue⟩
      · rw [hzero] at hmore
        exact absurd hmore (Nat.not_lt_zero _)
      · by_cases hsame : slot = odometerSlotIndex revs
        · rw [← hsame]
          exact ⟨hvalue, by rw [hvalid.2, hvalue]⟩
        · obtain ⟨hvalue', hsum'⟩ := torn_otherSlot ring revs j hsame
          have hle : slotValue ring slot ≤ last := by
            apply h.valid slot hslot
            unfold SlotValid at hvalid ⊢
            rwa [hvalue', hsum'] at hvalid
          rw [← hvalue', hvalue] at hle
          have hle := UInt32.le_iff_toNat_le.mp hle
          omega
    · intro slot hslot
      have hle := hraw slot hslot
      have hgrows : nextAt last.toNat slot ≤ nextAt revs.toNat slot := by
        have hslot : slot < 16 := hslot
        unfold nextAt
        omega
      omega

/-- A whole persist is found. -/
theorem Holding.scan_whole (h : Holding ring last) (hnext : Next last revs) :
    odometerBootScan (SplitFlap.torn ring revs 5) = revs := by
  obtain ⟨hall, hbest⟩ := odometerBootScan_max (SplitFlap.torn ring revs 5)
  obtain ⟨hvalue, hsum⟩ := torn_whole ring revs
  have hle := hall _ (odometerSlotIndex_lt revs)
    ⟨by rw [hvalue]; exact hnext.real, by rw [hsum, hvalue]⟩
  rw [hvalue] at hle
  rcases h.scan_torn hnext (Nat.le_refl 5) with hlast | hnew
  · rw [hlast] at hle
    have hle := UInt32.le_iff_toNat_le.mp hle
    have hmore := hnext.more
    omega
  · exact hnew

/-- The scan of a ring at rest. -/
theorem Holding.scan (h : Holding ring last) : odometerBootScan ring = last := by
  obtain ⟨hall, hbest⟩ := odometerBootScan_max ring
  have hbelow : odometerBootScan ring ≤ last := by
    rcases hbest with hzero | ⟨slot, hslot, hvalid, hvalue⟩
    · rw [hzero]
      exact UInt32.le_iff_toNat_le.mpr (Nat.zero_le _)
    · rw [← hvalue]
      exact h.valid slot hslot hvalid
  rcases h.held with hzero | ⟨hvalue, hsum⟩
  · subst hzero
    exact UInt32.le_antisymm hbelow (UInt32.le_iff_toNat_le.mpr (Nat.zero_le _))
  · have hle := hall _ (odometerSlotIndex_lt last)
      ⟨by rw [hvalue]; exact h.real, by rw [hsum, hvalue]⟩
    rw [hvalue] at hle
    exact UInt32.le_antisymm hbelow hle

/-- The swept ring holds the count 0. -/
theorem holding_swept : Holding (fun _ => 0) 0 := by
  have hzero : ∀ slot, slotValue (fun _ => 0) slot = 0 := by
    intro slot
    show word32 0 0 0 0 = 0
    decide
  refine ⟨?_, .inl rfl, ?_, by decide⟩
  · intro slot hslot hvalid
    rw [hzero]
    exact UInt32.le_refl 0
  · intro slot hslot
    rw [hzero]
    exact Nat.zero_le _

/-! ## §6. The runs. -/

/-- Between two steps: at rest the ring holds the last count; in a persist it is
what the bytes written so far made of one that does. -/
def OdometerKept (u : OdometerUnit) : Prop :=
  match u.writing with
  | none => Holding u.ring u.lastPersistedRevs
  | some (revs, rest) =>
      Next u.lastPersistedRevs revs ∧ ∃ (ring : Ring) (j : Nat), j ≤ 5 ∧
        Holding ring u.lastPersistedRevs ∧ u.ring = torn ring revs j ∧
        rest = (persistWrites revs).drop j

/-- One byte more. -/
theorem torn_succ (ring : Ring) {revs : UInt32} {j at' : Nat} {b : UInt8}
    {rest : List (Nat × UInt8)} (hrest : (at', b) :: rest = (persistWrites revs).drop j) :
    Function.update (torn ring revs j) at' b = torn ring revs (j + 1) ∧
      rest = (persistWrites revs).drop (j + 1) ∧ j < 5 := by
  have hlt : j < (persistWrites revs).length := by
    by_contra hge
    rw [List.drop_eq_nil_of_le (Nat.not_lt.mp hge)] at hrest
    exact absurd hrest (List.cons_ne_nil _ _)
  rw [List.drop_eq_getElem_cons hlt, List.cons.injEq] at hrest
  obtain ⟨hbyte, hrest⟩ := hrest
  refine ⟨?_, hrest, hlt⟩
  unfold torn
  rw [List.take_succ_eq_append_getElem hlt, List.foldl_append, ← hbyte]
  rfl

namespace OdometerUnit

variable {u u' : OdometerUnit}

/-- What a cut does. -/
theorem kept_cut (hu : OdometerKept u) :
    Holding u.ring (odometerBootScan u.ring) ∧
      u.lastPersistedRevs ≤ odometerBootScan u.ring ∧
      (odometerBootScan u.ring = u.lastPersistedRevs ∨
        ∃ revs rest, u.writing = some (revs, rest) ∧ odometerBootScan u.ring = revs) := by
  unfold OdometerKept at hu
  split at hu
  · rw [hu.scan]
    exact ⟨hu, UInt32.le_refl _, .inl rfl⟩
  · next revs rest hwriting =>
      obtain ⟨hnext, ring, j, hj, hring, htorn, hrest⟩ := hu
      rw [htorn]
      refine ⟨hring.torn hnext hj, ?_⟩
      rcases hring.scan_torn hnext hj with hlast | hnew
      · rw [hlast]
        exact ⟨UInt32.le_refl _, .inl rfl⟩
      · rw [hnew]
        refine ⟨UInt32.le_iff_toNat_le.mpr (Nat.le_of_lt hnext.more), .inr ?_⟩
        exact ⟨revs, rest, hwriting, rfl⟩

/-- A step keeps the invariant, and the last count does not go down. -/
theorem step_kept {a : OdometerStep} (hu : OdometerKept u) (hstep : u.step a = some u') :
    OdometerKept u' ∧ u.lastPersistedRevs ≤ u'.lastPersistedRevs := by
  cases a with
  | persist revs =>
      unfold OdometerUnit.step at hstep
      rw [Option.ite_none_right_eq_some, Option.some.injEq] at hstep
      obtain ⟨⟨hwriting, hshould, hmore, hnear, hreal⟩, rfl⟩ := hstep
      unfold OdometerKept at hu
      rw [hwriting] at hu
      have hnext : Next u.lastPersistedRevs revs :=
        ⟨UInt32.lt_iff_toNat_lt.mp hmore, hnear, hreal⟩
      exact ⟨⟨hnext, u.ring, 0, Nat.zero_le _, hu, rfl, rfl⟩, UInt32.le_refl _⟩
  | byte =>
      simp only [OdometerUnit.step] at hstep
      split at hstep
      · next revs at' b rest hwriting =>
          rw [Option.some.injEq] at hstep
          subst hstep
          unfold OdometerKept at hu
          rw [hwriting] at hu
          obtain ⟨hnext, ring, j, hj, hring, htorn, hrest⟩ := hu
          obtain ⟨hbyte, hrest, hlt⟩ := torn_succ ring hrest
          refine ⟨⟨hnext, ring, j + 1, hlt, hring, ?_, hrest⟩, UInt32.le_refl _⟩
          show Function.update u.ring at' b = _
          rw [htorn, hbyte]
      · exact absurd hstep (by simp)
  | done =>
      simp only [OdometerUnit.step] at hstep
      split at hstep
      · next revs hwriting =>
          rw [Option.some.injEq] at hstep
          subst hstep
          unfold OdometerKept at hu
          rw [hwriting] at hu
          obtain ⟨hnext, ring, j, hj, hring, htorn, hrest⟩ := hu
          -- nothing left to write: all five bytes are there
          have hlen := congrArg List.length hrest
          rw [List.length_drop] at hlen
          have hall : j = 5 := by
            have hfive : (persistWrites revs).length = 5 := rfl
            simp only [List.length_nil] at hlen
            omega
          subst hall
          have hheld := hring.torn hnext (Nat.le_refl 5)
          rw [hring.scan_whole hnext, ← htorn] at hheld
          exact ⟨hheld, UInt32.le_iff_toNat_le.mpr (Nat.le_of_lt hnext.more)⟩
      · exact absurd hstep (by simp)
  | cut =>
      unfold OdometerUnit.step at hstep
      rw [Option.some.injEq] at hstep
      subst hstep
      obtain ⟨hheld, hle, -⟩ := kept_cut hu
      exact ⟨hheld, hle⟩

theorem run_kept {steps : List OdometerStep} (hu : OdometerKept u)
    (hrun : run OdometerUnit.step u steps = some u') :
    OdometerKept u' ∧ u.lastPersistedRevs ≤ u'.lastPersistedRevs := by
  have hinv : OdometerKept u' ∧ u.lastPersistedRevs ≤ u'.lastPersistedRevs := by
    apply run_invariant (P := fun m => OdometerKept m ∧
      u.lastPersistedRevs ≤ m.lastPersistedRevs) _ ⟨hu, UInt32.le_refl _⟩ hrun
    intro m a m' hm hstep
    obtain ⟨hkept, hle⟩ := step_kept hm.1 hstep
    exact ⟨hkept, UInt32.le_trans hm.2 hle⟩
  exact hinv

theorem kept_swept : OdometerKept {} := holding_swept

/-- The last count and the one being written are of a set. -/
def CountsIn (P : UInt32 → Prop) (u : OdometerUnit) : Prop :=
  P u.lastPersistedRevs ∧ ∀ revs rest, u.writing = some (revs, rest) → P revs

theorem step_counts {P : UInt32 → Prop} {a : OdometerStep} (hu : OdometerKept u)
    (hcounts : CountsIn P u) (hasked : ∀ revs, a = .persist revs → P revs)
    (hstep : u.step a = some u') : CountsIn P u' := by
  obtain ⟨hlast, hwrites⟩ := hcounts
  cases a with
  | persist revs =>
      unfold OdometerUnit.step at hstep
      rw [Option.ite_none_right_eq_some, Option.some.injEq] at hstep
      obtain ⟨hguard, rfl⟩ := hstep
      refine ⟨hlast, ?_⟩
      intro revs' rest' hwriting
      rw [Option.some.injEq, Prod.mk.injEq] at hwriting
      rw [← hwriting.1]
      exact hasked revs rfl
  | byte =>
      simp only [OdometerUnit.step] at hstep
      split at hstep
      · next revs at' b rest hwriting =>
          rw [Option.some.injEq] at hstep
          subst hstep
          refine ⟨hlast, ?_⟩
          intro revs' rest' hwriting'
          rw [Option.some.injEq, Prod.mk.injEq] at hwriting'
          rw [← hwriting'.1]
          exact hwrites revs _ hwriting
      · exact absurd hstep (by simp)
  | done =>
      simp only [OdometerUnit.step] at hstep
      split at hstep
      · next revs hwriting =>
          rw [Option.some.injEq] at hstep
          subst hstep
          exact ⟨hwrites revs _ hwriting, fun _ _ hnone => absurd hnone (by simp)⟩
      · exact absurd hstep (by simp)
  | cut =>
      unfold OdometerUnit.step at hstep
      rw [Option.some.injEq] at hstep
      subst hstep
      refine ⟨?_, fun _ _ hnone => absurd hnone (by simp)⟩
      show P (odometerBootScan u.ring)
      obtain ⟨-, -, hsame | ⟨revs, rest, hwriting, hnew⟩⟩ := kept_cut hu
      · rw [hsame]
        exact hlast
      · rw [hnew]
        exact hwrites revs rest hwriting

theorem run_counts {P : UInt32 → Prop} {steps : List OdometerStep} (hu : OdometerKept u)
    (hcounts : CountsIn P u) (hasked : ∀ revs, .persist revs ∈ steps → P revs)
    (hrun : run OdometerUnit.step u steps = some u') : CountsIn P u' := by
  induction steps generalizing u with
  | nil =>
      rw [run_nil, Option.some.injEq] at hrun
      exact hrun ▸ hcounts
  | cons a steps ih =>
      rw [run_cons, Option.bind_eq_some_iff] at hrun
      obtain ⟨m, hm, hrest⟩ := hrun
      apply ih (step_kept hu hm).1 _ (fun revs hmem => hasked revs (List.mem_cons_of_mem _ hmem))
        hrest
      apply step_counts hu hcounts _ hm
      intro revs ha
      subst ha
      exact hasked revs List.mem_cons_self

/-- **The count survives a cut at any byte**: in every run from the swept ring,
a scan finds the last persisted count or the one that is being written.  What it
finds is 0 or stands in its slot whole, checksum and all, it was asked for in the
run, and no count persisted earlier in the run is larger. -/
theorem scan_of_run (steps : List OdometerStep) (u : OdometerUnit)
    (hrun : run OdometerUnit.step {} steps = some u) :
    (odometerBootScan u.ring = u.lastPersistedRevs ∨
        ∃ revs rest, u.writing = some (revs, rest) ∧ odometerBootScan u.ring = revs) ∧
      (odometerBootScan u.ring = 0 ∨
        .persist (odometerBootScan u.ring) ∈ steps ∧
          slotValue u.ring (odometerSlotIndex (odometerBootScan u.ring)) =
            odometerBootScan u.ring ∧
          slotSum u.ring (odometerSlotIndex (odometerBootScan u.ring)) =
            odometerSlotChecksum (odometerBootScan u.ring)) ∧
      ∀ earlier later m, steps = earlier ++ later →
        run OdometerUnit.step {} earlier = some m →
          m.lastPersistedRevs ≤ odometerBootScan u.ring := by
  have hkept := (run_kept kept_swept hrun).1
  obtain ⟨hheld, hle, hfinds⟩ := kept_cut hkept
  have hcounts : CountsIn (fun c => c = 0 ∨ .persist c ∈ steps) u := by
    apply run_counts kept_swept _ (fun revs hmem => .inr hmem) hrun
    exact ⟨.inl rfl, fun _ _ hnone => absurd hnone (by simp)⟩
  have hof : odometerBootScan u.ring = 0 ∨ .persist (odometerBootScan u.ring) ∈ steps := by
    rcases hfinds with hsame | ⟨revs, rest, hwriting, hnew⟩
    · rw [hsame]
      exact hcounts.1
    · rw [hnew]
      exact hcounts.2 revs rest hwriting
  refine ⟨hfinds, ?_, ?_⟩
  · rcases hof with hzero | hasked
    · exact .inl hzero
    · rcases hheld.held with hzero | hwhole
      · exact .inl hzero
      · exact .inr ⟨hasked, hwhole⟩
  · intro earlier later m hsteps hearlier
    rw [hsteps, run_append, hearlier, Option.bind_some] at hrun
    have hm := (run_kept kept_swept hearlier).1
    exact UInt32.le_trans (run_kept hm hrun).2 hle

/-- A cut two bytes into the second persist, another that is all but whole, and
one that is. -/
theorem scan_of_cut_run :
    ∃ u, run OdometerUnit.step {}
        [.persist 1, .byte, .byte, .byte, .byte, .byte, .done, .persist 5, .byte, .byte, .cut,
          .persist 9, .byte, .byte, .byte, .byte, .cut, .persist 16, .byte] = some u ∧
      (odometerBootScan u.ring = u.lastPersistedRevs ∨
        ∃ revs rest, u.writing = some (revs, rest) ∧ odometerBootScan u.ring = revs) ∧
      odometerBootScan u.ring = 1 := by
  have hscan : (run OdometerUnit.step {}
      [.persist 1, .byte, .byte, .byte, .byte, .byte, .done, .persist 5, .byte, .byte, .cut,
        .persist 9, .byte, .byte, .byte, .byte, .cut, .persist 16, .byte]).map
          (fun u => odometerBootScan u.ring) = some 1 := by
    decide +kernel
  obtain ⟨u, hrun, hone⟩ := Option.map_eq_some_iff.mp hscan
  exact ⟨u, hrun, (scan_of_run _ u hrun).1, hone⟩

end OdometerUnit

end SplitFlap
